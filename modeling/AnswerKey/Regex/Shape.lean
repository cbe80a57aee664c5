import AnswerKey.Regex.Tree

/-!
# Shapes of expressions

The shape of a tree leaves out what is there for writing only: groups that capture nothing, runs
in runs, choices in choices, repetitions that change nothing.  Characters that follow each other
are one literal, a choice of characters is a set, and what all choices begin with comes before the
choice.  How much room an expression takes depends on its shape alone.
-/

namespace AnswerKey.Regex

/-- A tree without what is there for writing only. -/
inductive Shape where
  /-- The empty text. -/
  | empty
  /-- These characters, one after the other. -/
  | literal (t : Text)
  /-- One character of a set of none or several, and whether the set was written for ASCII. -/
  | set (table : Unicode.Ranges) (k : Alphabet)
  | assertion (a : Assertion)
  /-- A group that captures. -/
  | group (s : Shape)
  | repeated (s : Shape) (least : Nat) (most : Option Nat) (isLazy : Bool)
  | concat (ss : List Shape)
  | alternation (ss : List Shape)
deriving Repr

namespace Shape

/-- The shape that matches nothing. -/
def never : Shape := set [] .ascii

/-! ## Equal shapes -/

mutual

/-- Whether two shapes are equal.  No two groups are, since each has a place of its own in the list
of groups. -/
def agrees : Shape → Shape → Bool
  | empty, empty => true
  | literal t, literal u => t == u
  | set table k, set other l => table == other && k == l
  | assertion a, assertion b => a == b
  | repeated s least most isLazy, repeated t least' most' isLazy' =>
    least == least' && most == most' && isLazy == isLazy' && s.agrees t
  | concat ss, concat ts => allAgree ss ts
  | alternation ss, alternation ts => allAgree ss ts
  | _, _ => false

/-- Whether two lists of shapes are equal. -/
def allAgree : List Shape → List Shape → Bool
  | [], [] => true
  | s :: ss, t :: ts => s.agrees t && allAgree ss ts
  | _, _ => false

end

/-! ## Lengths -/

mutual

/-- Whether a shape can match nothing but the empty text. -/
def isEmptyOnly : Shape → Bool
  | empty | assertion _ => true
  | literal _ | set _ _ => false
  | group s => s.isEmptyOnly
  | repeated s _ _ _ => s.isEmptyOnly
  | concat ss | alternation ss => areEmptyOnly ss

/-- Whether each of some shapes can match nothing but the empty text. -/
def areEmptyOnly : List Shape → Bool
  | [] => true
  | s :: ss => s.isEmptyOnly && areEmptyOnly ss

end

mutual

/-- The least number of characters that a shape matches.  Where a set has no member there is none,
whatever stands around it. -/
def leastLength? : Shape → Option Nat
  | empty | assertion _ => some 0
  | literal t => some t.length
  | set table _ => if table.isEmpty then none else some 1
  | group s => s.leastLength?
  | repeated s least _ _ => s.leastLength?.map (least * ·)
  | concat ss => totalLength? ss
  | alternation ss => smallestLength? ss

/-- The least number of characters that some shapes match, one after the other. -/
def totalLength? : List Shape → Option Nat
  | [] => some 0
  | s :: ss => do return (← s.leastLength?) + (← totalLength? ss)

/-- The least number of characters that one of some shapes matches. -/
def smallestLength? : List Shape → Option Nat
  | [] => none
  | [s] => s.leastLength?
  | s :: t :: ss => do return min (← s.leastLength?) (← smallestLength? (t :: ss))

end

/-- Whether every match is known to have a character. -/
def consumes (s : Shape) : Bool :=
  s.leastLength?.any (0 < ·)

/-! ## Single shapes -/

/-- One character of a set, whose table may have surrogates in it. -/
def ofSet (table : Unicode.Ranges) (k : Alphabet) : Shape :=
  let table :=
    if table.isSingle then table else Unicode.Ranges.diff table Unicode.Category.surrogate
  match table with
  | [] => never
  | (low, _) :: _ => if table.isSingle then literal [Char.ofNat low] else set table k

/-- A repetition; of what is always empty one round is as good as many. -/
def repeatedOf (s : Shape) (least : Nat) (most : Option Nat) (isLazy : Bool) : Shape :=
  let bound (n : Nat) := if s.isEmptyOnly then min n 1 else n
  match bound least, if s.isEmptyOnly then some (bound (most.getD 1)) else most with
  | 0, some 0 => empty
  | 1, some 1 => s
  | least, most => repeated s least most isLazy

/-! ## Runs -/

/-- What a shape adds to a run. -/
def items : Shape → List Shape
  | empty => []
  | concat ss => ss
  | s => [s]

/-- A run with one more shape in front; two literals become one. -/
def precede : Shape → List Shape → List Shape
  | literal t, literal u :: rest => literal (t ++ u) :: rest
  | s, rest => s :: rest

/-- Some shapes, one after the other. -/
def run (ss : List Shape) : Shape :=
  match (ss.flatMap items).foldr precede [] with
  | [] => empty
  | [s] => s
  | ss => concat ss

/-! ## Choices -/

/-- What a shape adds to a choice. -/
def alternatives : Shape → List Shape
  | alternation ss => ss
  | s => [s]

/-- The code point of a shape that is a single character. -/
def point? : Shape → Option Nat
  | literal [c] => some c.toNat
  | _ => none

/-- The members of a shape that is a set. -/
def members? : Shape → Option Unicode.Ranges
  | set table _ => some table
  | _ => none

/-- Some alternatives as one set, if all are single characters or all are sets. -/
def asSet? (ss : List Shape) : Option Shape :=
  match ss.mapM point? with
  | some points => some (ofSet (Unicode.Ranges.ofPoints points) .unicode)
  | none => (ss.mapM members?).map fun tables => ofSet (Unicode.Ranges.unions tables) .unicode

/-- What a shape is a run of. -/
def run? : Shape → Option (List Shape)
  | concat ss => some ss
  | _ => none

/-- What two runs have in common at their starts. -/
def commonStart : List Shape → List Shape → List Shape
  | s :: ss, t :: ts => if s.agrees t then s :: commonStart ss ts else []
  | _, _ => []

/-- What all of some alternatives begin with, if all are runs. -/
def sharedStart (ss : List Shape) : List Shape :=
  match ss.mapM run? with
  | some (first :: rest) => rest.foldl commonStart first
  | _ => []

/-- Some shapes to choose from, where starts are shared up to `depth` times. -/
def choiceWith (depth : Nat) (ss : List Shape) : Shape :=
  match ss.flatMap alternatives with
  | [] => never
  | [s] => s
  | ss =>
    match asSet? ss, depth, sharedStart ss with
    | some s, _, _ => s
    | none, depth + 1, s :: start =>
      run (s :: start ++ [choiceWith depth (ss.map fun t => run (t.items.drop (start.length + 1)))])
    | none, _, _ => alternation ss

mutual

/-- How many shapes a shape is made of. -/
def weight : Shape → Nat
  | group s => s.weight + 1
  | repeated s _ _ _ => s.weight + 1
  | concat ss | alternation ss => totalWeight ss + 1
  | _ => 1

/-- How many shapes some shapes are made of. -/
def totalWeight : List Shape → Nat
  | [] => 0
  | s :: ss => s.weight + totalWeight ss

end

/-- Some shapes to choose from.  A shared start is part of two alternatives, so there are fewer of
them than shapes. -/
def choice (ss : List Shape) : Shape :=
  choiceWith (totalWeight ss) ss

/-! ## The shape of a tree -/

mutual

/-- The shape that a tree comes to. -/
def ofTree : Tree → Shape
  | .empty => empty
  | .set s k _ => ofSet s.ranges k
  | .assertion a => assertion a
  | .group captures t => if captures then group (ofTree t) else ofTree t
  | .repeated t least most isLazy => repeatedOf (ofTree t) least most isLazy
  | .concat ts => run (ofTrees ts)
  | .alternation ts => choice (ofTrees ts)

/-- The shapes that some trees come to. -/
def ofTrees : List Tree → List Shape
  | [] => []
  | t :: ts => ofTree t :: ofTrees ts

end

/-! ## Edges -/

mutual

/-- Whether a shape begins with an assertion, as far as it is known without matching. -/
def startsWith (a : Assertion) : Shape → Bool
  | assertion b => a == b
  | group s => s.startsWith a
  | repeated s least _ _ => 0 < least && s.startsWith a
  | concat ss => runStartsWith a ss
  | alternation ss => allStartWith a ss
  | _ => false

/-- Whether an assertion is among the empty shapes at the start of a run, or the start of what
follows them. -/
def runStartsWith (a : Assertion) : List Shape → Bool
  | [] => false
  | s :: ss => s.startsWith a || s.isEmptyOnly && runStartsWith a ss

/-- Whether each of some shapes begins with an assertion. -/
def allStartWith (a : Assertion) : List Shape → Bool
  | [] => true
  | s :: ss => s.startsWith a && allStartWith a ss

end

mutual

/-- A shape seen from its end, from where nothing is captured. -/
def reversed : Shape → Shape
  | literal t => literal t.reverse
  | group s => s.reversed
  | repeated s least most isLazy => repeated s.reversed least most isLazy
  | concat ss => concat (allReversed ss).reverse
  | alternation ss => alternation (allReversed ss)
  | s => s

/-- Some shapes, each seen from its end. -/
def allReversed : List Shape → List Shape
  | [] => []
  | s :: ss => s.reversed :: allReversed ss

end

end Shape
end AnswerKey.Regex
