import AnswerKey.Regex.Room.Set
import AnswerKey.Regex.Room.Words
import AnswerKey.Regex.Shape

/-!
# The size of an expression

An automaton is made of fragments, one for each part of an expression.  `fits` says whether there
is room enough for the automaton of a tree both ways, and the tree is not nested too deep.
-/

namespace AnswerKey.Regex

/-- A part of an automaton, by what room is taken after it has been made. -/
structure Fragment where
  grow : Room → Room

namespace Fragment

/-- A fragment that always takes the same room. -/
def fixed (r : Room) : Fragment :=
  ⟨r.add⟩

/-- Some fragments, one after the other. -/
def run (fs : List Fragment) : Fragment :=
  ⟨fun r => fs.foldl (fun r f => f.grow r) r⟩

/-- The room after `n` copies of a fragment; once too much is taken no more are made. -/
def copies (f : Fragment) : (n : Nat) → Room → Room
  | 0, r => r
  | n + 1, r => if r.fits then f.copies n (f.grow r) else r

/-- A choice: a fork to the fragments, and a state where they meet, both of which are made after the
second of them. -/
def choice : List Fragment → Fragment
  | f :: g :: fs =>
    ⟨fun r => (run fs).grow (((run [f, g]).grow r).addFork (fs.length + 2) |>.addStates 1)⟩
  | fs => run fs

/-- A repetition.  A fork decides between another round and the end.  Any number of rounds of what
may be empty takes two forks, the first of which decides whether there is a round at all. -/
def repeated (f : Fragment) (consumes : Bool) (least : Nat) (most : Option Nat) : Fragment :=
  match least, most with
  | 0, some 1 => ⟨fun r => (f.grow (r.addFork 2)).addStates 1⟩
  | 0, none =>
    if consumes then ⟨fun r => f.grow (r.addFork 2)⟩
    else ⟨fun r => (((f.grow r).addFork 2).addFork 2).addStates 1⟩
  | least, none => ⟨fun r => (f.copies least r).addFork 2⟩
  | least, some most =>
    if least = most then ⟨f.copies least⟩
    else
      let needed (r : Room) := if least = 0 then r.addStates 1 else f.copies least r
      let round : Fragment := ⟨fun r => f.grow (r.addFork 2)⟩
      ⟨fun r => round.copies (most - least) ((needed r).addStates 1)⟩

/-- One character of a set.  Where all are of ASCII there is but one state to read them. -/
def ofSet (d : Direction) (table : Unicode.Ranges) : Fragment :=
  if table.all (·.2 < 128) then fixed (Room.addReader table.length { states := 1 })
  else
    let sequences := Unicode.Utf8.sequences table
    ⟨Room.addSequences d sequences⟩

/-- The bytes of a text in the order in which they are read; the characters of the text are in that
order already. -/
def bytes (d : Direction) (t : Text) : List Nat :=
  t.flatMap fun c =>
    match d with
    | .forward => Unicode.Utf8.bytes c.toNat
    | .backward => (Unicode.Utf8.bytes c.toNat).reverse

end Fragment

namespace Shape

/-- The text of a literal. -/
def literal? : Shape → Option Text
  | literal t => some t
  | _ => none

mutual

/-- The fragment for a shape that is already seen from where it is read. -/
def fragment (d : Direction) : Shape → Fragment
  | empty | assertion _ => .fixed { states := 1 }
  | literal t => .fixed { states := t.byteSize }
  | set table _ => .ofSet d table
  | group s => .run [.fixed { states := 1 }, s.fragment d, .fixed { states := 1 }]
  | repeated s least most _ => (s.fragment d).repeated s.consumes least most
  | concat ss => .run (fragments d ss)
  | alternation ss =>
    match ss.mapM literal? with
    | some words => .fixed (Words.room (words.map (Fragment.bytes d)))
    | none => .choice (fragments d ss)

/-- The fragments for some shapes. -/
def fragments (d : Direction) : List Shape → List Fragment
  | [] => []
  | s :: ss => s.fragment d :: fragments d ss

end

/-- The room for the entrance: a state, or where a match need not begin at the edge of the text a
loop over any bytes. -/
def entrance (isAnchored : Bool) : Room :=
  if isAnchored then { states := 1 } else (Room.addFork 2 {}).add (Room.addReader 1 { states := 1 })

/-- The room for a whole expression: it is entered, what it matches is captured on the way forward,
and it is left. -/
def room (s : Shape) : Direction → Room
  | .forward =>
    (((group s).fragment .forward).grow (entrance (s.startsWith .textStart))).addStates 1
  | .backward =>
    let s := s.reversed
    ((s.fragment .backward).grow (entrance (s.startsWith .textEnd))).addStates 1

/-- Whether there is room for a shape both ways. -/
def fits (s : Shape) : Bool :=
  (s.room .forward).fits && (s.room .backward).fits

end Shape

/-- How deep a tree may be nested. -/
def Tree.heightLimit : Nat := 250

/-- Whether a tree is not nested too deep. -/
def Tree.isShallow (t : Tree) : Bool :=
  t.height ≤ heightLimit

/-- Whether a tree is not nested too deep and there is room for it. -/
def Tree.fits (t : Tree) : Bool :=
  t.isShallow && (Shape.ofTree t).fits

end AnswerKey.Regex
