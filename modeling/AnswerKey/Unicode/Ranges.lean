/-!
# Character classes as tables

A table lists the code points of a class as ranges, ends included, in order and with a
gap between any two.  The operations keep it so.  Long tables are written as lines of
hexadecimal numbers.
-/

namespace AnswerKey.Unicode

/-- The ranges of code points of a character class. -/
abbrev Ranges := List (Nat × Nat)

/-- The greatest code point. -/
def lastCodePoint : Nat := 0x10ffff

namespace Ranges

/-- Whether a code point lies in one of the ranges; behind the first range that begins after it
there is no need to look. -/
def holds (n : Nat) : Ranges → Bool
  | [] => false
  | (low, high) :: rest => low ≤ n && (n ≤ high || holds n rest)

/-- Whether a character lies in one of the ranges. -/
def contains (table : Ranges) (c : Char) : Bool :=
  table.holds c.toNat

/-- Whether a table has a single code point. -/
def isSingle : Ranges → Bool
  | [(low, high)] => low == high
  | _ => false

/-! ## Sets of code points -/

/-- The table with a range in front of it that begins no later; ranges that touch become one. -/
def glue (low high : Nat) : Ranges → Ranges
  | [] => [(low, high)]
  | (l, h) :: rest =>
    if l ≤ high + 1 then glue low (max high h) rest else (low, high) :: (l, h) :: rest

/-- The ranges of two tables in the order in which they begin. -/
def interleave (a b : Ranges) : Ranges :=
  List.merge a b fun r s => r.1 ≤ s.1

/-- The code points in either table. -/
def union (a b : Ranges) : Ranges :=
  (interleave a b).foldr (fun r rest => glue r.1 r.2 rest) []

/-- The code points in any of some tables. -/
def unions (tables : List Ranges) : Ranges :=
  tables.foldr union []

/-- The table of some code points. -/
def ofPoints (points : List Nat) : Ranges :=
  (points.mergeSort).foldr (fun n rest => glue n n rest) []

/-- The code points from `first` on that are not in the table. -/
def gapsFrom (first : Nat) : Ranges → Ranges
  | [] => if first ≤ lastCodePoint then [(first, lastCodePoint)] else []
  | (low, high) :: rest =>
    if first < low then (first, low - 1) :: gapsFrom (high + 1) rest
    else gapsFrom (max first (high + 1)) rest

/-- The code points that are not in the table. -/
def compl (a : Ranges) : Ranges :=
  gapsFrom 0 a

/-- The code points in both tables. -/
def inter (a b : Ranges) : Ranges :=
  compl (union (compl a) (compl b))

/-- The code points in the first table that are not in the second. -/
def diff (a b : Ranges) : Ranges :=
  compl (union (compl a) b)

/-! ## Written tables -/

/-- The value of a hexadecimal digit in small letters. -/
def digitValue (c : Char) : Nat :=
  if c.isDigit then c.toNat - '0'.toNat else c.toNat - 'a'.toNat + 10

/-- A written table up to some place: the complete ranges, last first, and of the next one the
end before its dash, if there is one, and the number behind. -/
structure Writing where
  complete : Ranges := []
  low : Option Nat := none
  number : Nat := 0

/-- The ranges including the last one, last first. -/
def Writing.finish (w : Writing) : Ranges :=
  (w.low.getD w.number, w.number) :: w.complete

/-- The table behind one more sign: a digit, a dash between the ends of a range or a blank
between ranges. -/
def Writing.step (w : Writing) (c : Char) : Writing :=
  if c = ' ' then { complete := w.finish }
  else if c = '-' then { w with low := some w.number, number := 0 }
  else { w with number := 16 * w.number + digitValue c }

/-- The table that a line stands for: ranges between blanks, each a number or two with a dash
between. -/
def ofLine (line : String) : Ranges :=
  (line.toList.foldl Writing.step {}).finish.reverse

/-- The table that some lines stand for. -/
def ofLines (lines : List String) : Ranges :=
  lines.flatMap ofLine

end Ranges

/-- A character class and the names under which it is known, in small letters and without blanks,
dashes and underscores. -/
structure NamedClass where
  names : List String
  ranges : Ranges

end AnswerKey.Unicode
