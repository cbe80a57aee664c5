import AnswerKey.Text

/-!
# Room

An expression can be run as an automaton that reads bytes, from the start of a text or from its
end.  Room is what the states of an automaton and the links between them take.  States are numbered
in the order in which they are made.
-/

namespace AnswerKey.Regex

/-- Which way an automaton goes through a text. -/
inductive Direction where
  | forward | backward
deriving DecidableEq, Repr

/-- What has been made of an automaton: how many states, and how many bytes of links. -/
structure Room where
  states : Nat := 0
  links : Nat := 0
deriving DecidableEq, Repr

namespace Room

/-! ## What things take -/

/-- What a state takes. -/
def ofState : Nat := 32

/-- What a link takes that is followed without reading. -/
def ofLink : Nat := 4

/-- What a link takes that is followed with a byte, where there can be several from one state. -/
def ofByteLink : Nat := 8

/-- What all states and links together may take. -/
def limit : Nat := 10485760

/-! ## Making states and links -/

/-- The bytes that are taken. -/
def bytes (r : Room) : Nat :=
  r.states * ofState + r.links

/-- Whether no more is taken than may be. -/
def fits (r : Room) : Bool :=
  r.bytes ≤ limit

/-- With some more states that have no links of these kinds. -/
def addStates (n : Nat) (r : Room) : Room :=
  { r with states := r.states + n }

/-- With a state and its links that are followed with a byte. -/
def addReader (links : Nat) (r : Room) : Room :=
  ⟨r.states + 1, r.links + links * ofByteLink⟩

/-- With a state and its links that are followed without reading. -/
def addFork (links : Nat) (r : Room) : Room :=
  ⟨r.states + 1, r.links + links * ofLink⟩

/-- With what two automata take. -/
def add (r s : Room) : Room :=
  ⟨r.states + s.states, r.links + s.links⟩

end Room
end AnswerKey.Regex
