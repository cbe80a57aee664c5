import AnswerKey.Regex.Memo
import AnswerKey.Regex.Room
import AnswerKey.Unicode.Utf8

/-!
# The room for a set

A character of a set is read byte by byte.  States that read alike are shared as far as a memo
remembers that there is such a state already; what a state does is told by the numbers of the states
behind it, so how much is shared depends on the numbers and thereby on what was made before.
-/

namespace AnswerKey.Regex

open Unicode (ByteRanges)

/-- Room, and the states that can be shared. -/
structure Sharing where
  room : Room
  memo : Memo

namespace Sharing

/-- A state that is known by a key, and the room after it was made if it is not remembered. -/
def state (s : Sharing) (key : List Nat) (make : Room → Room) : Nat × Sharing :=
  match s.memo.get? key with
  | some n => (n, s)
  | none => (s.room.states, ⟨make s.room, s.memo.insert key s.room.states⟩)

/-! ## Forward -/

/-- Sequences in runs that begin with the same range of bytes, each range with what follows it. -/
def byFirst (sequences : List ByteRanges) : List ((Nat × Nat) × List ByteRanges) :=
  (sequences.splitBy fun s t => s.head? == t.head?).filterMap fun run =>
    (run.head?.bind List.head?).map fun range => (range, run.map List.tail)

/-- The state from which the sequences are read, of at most `depth` bytes, and behind which comes
the state `target`.  Such a state is known by its links, and those behind it are made before it. -/
def reader (target : Nat) : (depth : Nat) → List ByteRanges → Sharing → Nat × Sharing
  | 0, _, s => (target, s)
  | depth + 1, sequences, s =>
    match byFirst sequences with
    | [] => (target, s)
    | links =>
      let (key, s) := links.foldl (fun (key, s) (range, rest) =>
        let (next, s) := reader target depth rest s
        (next :: range.2 :: range.1 :: key, s)) ([], s)
      s.state key.reverse (Room.addReader links.length)

/-! ## Backward -/

/-- The state from which a sequence is read from its end, and behind which comes the state
`target`.  Such a state is known by its link. -/
def backwardReader (target : Nat) (sequence : ByteRanges) (s : Sharing) : Nat × Sharing :=
  sequence.foldl (fun (next, s) range => s.state [next, range.1, range.2] (Room.addStates 1))
    (target, s)

end Sharing

namespace Room

/-- Room with that for one of some byte sequences.  On the way backward each of them has a link from
the first state. -/
def addSequences (d : Direction) (sequences : List ByteRanges) (r : Room) : Room :=
  match d with
  | .forward =>
    (Sharing.reader r.states 4 sequences ⟨r.addStates 1, { slots := 10000 }⟩).2.room
  | .backward =>
    let start : Sharing := ⟨(r.addFork sequences.length).addStates 1, { slots := 1000 }⟩
    (sequences.foldl (fun s sequence => (Sharing.backwardReader (r.states + 1) sequence s).2) start).room

end Room
end AnswerKey.Regex
