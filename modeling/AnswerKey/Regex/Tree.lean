import AnswerKey.Regex.Loop

/-!
# Expressions as they are written

A tree keeps the groups, the runs and the alternatives of an expression as they stand in its text.
`regex` is what it means, and `height` how deep it is nested.
-/

namespace AnswerKey.Regex

/-- An expression with its groups, runs and alternatives. -/
inductive Tree where
  /-- Nothing, or flags for what follows. -/
  | empty
  /-- One character of a set, the alphabet for which the set was written, and the height of the
  brackets that it is written with. -/
  | set (s : CharSet) (k : Alphabet) (height : Nat)
  | assertion (a : Assertion)
  /-- A group in parentheses; what a capturing one has matched can be told afterwards. -/
  | group (captures : Bool) (t : Tree)
  /-- A repetition, and whether it prefers fewer rounds. -/
  | repeated (t : Tree) (least : Nat) (most : Option Nat) (isLazy : Bool)
  /-- Several trees, one after the other. -/
  | concat (ts : List Tree)
  /-- Several trees to choose from. -/
  | alternation (ts : List Tree)
deriving Repr

namespace Tree

/-! ## What a tree means -/

mutual

/-- The expression that a tree stands for. -/
def regex : Tree → Regex
  | empty => .empty
  | set s _ _ => .chars s
  | assertion a => .assertion a
  | group _ t => t.regex
  | repeated t least most _ => loop t.regex least (most.map (· - least))
  | concat ts => sequence ts
  | alternation ts => choice ts

/-- The expression for some trees, one after the other. -/
def sequence : List Tree → Regex
  | [] => .empty
  | [t] => t.regex
  | t :: u :: ts => .seq t.regex (sequence (u :: ts))

/-- The expression for some trees to choose from. -/
def choice : List Tree → Regex
  | [] => .chars .none
  | [t] => t.regex
  | t :: u :: ts => .alt t.regex (choice (u :: ts))

end

/-! ## How deep a tree is nested -/

mutual

/-- How many groups, repetitions, runs, alternatives and brackets are nested in each other. -/
def height : Tree → Nat
  | empty => 0
  | set _ _ height => height
  | assertion _ => 0
  | group _ t => t.height + 1
  | repeated t _ _ _ => t.height + 1
  | concat ts => greatestHeight ts + 1
  | alternation ts => greatestHeight ts + 1

/-- The greatest height among some trees. -/
def greatestHeight : List Tree → Nat
  | [] => 0
  | t :: ts => max t.height (greatestHeight ts)

end

/-! ## Making trees -/

/-- Some trees, one after the other, as one: a single one is that one itself. -/
def ofItems : List Tree → Tree
  | [] => empty
  | [t] => t
  | ts => concat ts

/-- Some trees to choose from as one: a single one is that one itself. -/
def ofAlternatives : List Tree → Tree
  | [] => empty
  | [t] => t
  | ts => alternation ts

end Tree
end AnswerKey.Regex
