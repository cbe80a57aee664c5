import AnswerKey.Unicode.Ranges

/-!
# The bytes of code points

In UTF-8 the code points of a range are written as few kinds of byte sequences, each of which
allows a range of bytes at every place.  The kinds are listed in the order of the code
points.
-/

namespace AnswerKey.Unicode

/-- A kind of byte sequences: the least and the greatest byte at each place. -/
abbrev ByteRanges := List (Nat × Nat)

namespace Utf8

/-- The bytes of a code point. -/
def bytes (n : Nat) : List Nat :=
  (String.utf8EncodeChar (Char.ofNat n)).map UInt8.toNat

/-- The ranges of code points with equally many bytes, without the surrogates between them. -/
def planes : Ranges :=
  [(0, 0x7f), (0x80, 0x7ff), (0x800, 0xd7ff), (0xe000, 0xffff), (0x10000, lastCodePoint)]

/-! ## Sequences of one length -/

/-- The sequences that begin with a byte from `low` to `high` and go on with any bytes for those of
`rest`. -/
def block (low high : Nat) (rest : List Nat) : List ByteRanges :=
  if low ≤ high then [(low, high) :: rest.map fun _ => (0x80, 0xbf)] else []

/-- The sequences behind a first byte. -/
def behind (first : Nat) (kinds : List ByteRanges) : List ByteRanges :=
  kinds.map ((first, first) :: ·)

/-- Whether some bytes are the least that can follow a first byte. -/
def areLeast (bytes : List Nat) : Bool :=
  bytes.all (· == 0x80)

/-- Whether some bytes are the greatest that can follow a first byte. -/
def areGreatest (bytes : List Nat) : Bool :=
  bytes.all (· == 0xbf)

/-- The sequences from some bytes on, all of which follow a first one. -/
def onward : List Nat → List ByteRanges
  | [] => [[]]
  | b :: rest =>
    if areLeast rest then block b 0xbf rest
    else behind b (onward rest) ++ block (b + 1) 0xbf rest

/-- The sequences up to some bytes, all of which follow a first one. -/
def upTo : List Nat → List ByteRanges
  | [] => [[]]
  | b :: rest =>
    if areGreatest rest then block 0x80 b rest
    else block 0x80 (b - 1) rest ++ behind b (upTo rest)

/-- The sequences from some bytes to as many others. -/
def between : List Nat → List Nat → List ByteRanges
  | b :: low, c :: high =>
    if b = c then behind b (between low high)
    else
      (if areLeast low then [] else behind b (onward low)) ++
        block (if areLeast low then b else b + 1) (if areGreatest high then c else c - 1) low ++
        (if areGreatest high then [] else behind c (upTo high))
  | _, _ => [[]]

/-! ## Sequences of code points -/

/-- The sequences for the code points of some ranges. -/
def sequences (table : Ranges) : List ByteRanges :=
  table.flatMap fun r =>
    planes.flatMap fun plane =>
      let low := max r.1 plane.1
      let high := min r.2 plane.2
      if low ≤ high then between (bytes low) (bytes high) else []

end Utf8
end AnswerKey.Unicode
