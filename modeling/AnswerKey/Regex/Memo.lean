import Std.Data.HashMap

/-!
# Memos

A memo remembers a number for each of some keys, but not for ever: it has a fixed number of
slots, each of them for a single key, and a key that comes later takes its slot from the one before.
-/

namespace AnswerKey.Regex

/-- A memo with a number of slots; those that have been used hold a key and its number. -/
structure Memo where
  slots : UInt64
  entries : Std.HashMap UInt64 (List Nat × Nat) := {}

namespace Memo

/-- The slot for a key: the remainder of a number into which the parts of the key are mixed one
after the other. -/
def slot (m : Memo) (key : List Nat) : UInt64 :=
  key.foldl (fun mixed part => (mixed ^^^ part.toUInt64) * 1099511628211) 14695981039346656037
    % m.slots

/-- The number that is remembered for a key. -/
def get? (m : Memo) (key : List Nat) : Option Nat :=
  match m.entries[m.slot key]? with
  | some (other, n) => if other = key then some n else none
  | none => none

/-- The memo with a number for a key. -/
def insert (m : Memo) (key : List Nat) (n : Nat) : Memo :=
  { m with entries := m.entries.insert (m.slot key) (key, n) }

/-- A key that was put in is remembered. -/
theorem get?_insert (m : Memo) (key : List Nat) (n : Nat) :
    (m.insert key n).get? key = some n := by
  simp [get?, insert, slot]

/-- Nothing changes for keys of other slots. -/
theorem get?_insert_of_slot_ne {m : Memo} {key other : List Nat} {n : Nat}
    (h : m.slot key ≠ m.slot other) : (m.insert key n).get? other = m.get? other := by
  have h' : (m.insert key n).slot other = m.slot other := rfl
  simp only [get?, h']
  simp [insert, Std.HashMap.getElem?_insert, h]

end Memo
end AnswerKey.Regex
