import AnswerKey.Unicode.Blank
import AnswerKey.Unicode.Case
import AnswerKey.Unicode.Property
import AnswerKey.Unicode.Word

/-!
# Sets of characters

The sets that a regular expression can name, as terms: single characters, ranges,
classes, and what is made from them.  `contains` decides membership, and `ranges` lists the
members.
-/

namespace AnswerKey.Regex

/-- The named classes of ASCII characters. -/
inductive AsciiClass where
  | alnum | alpha | ascii | blank | cntrl | digit | graph | lower | print | punct | space | upper
  | word | xdigit
deriving DecidableEq, Repr, Hashable

namespace AsciiClass

/-- All named classes. -/
def all : List AsciiClass :=
  [alnum, alpha, ascii, blank, cntrl, digit, graph, lower, print, punct, space, upper, word,
   xdigit]

/-- The name of a class. -/
def name : AsciiClass → List Char
  | alnum => "alnum".toList
  | alpha => "alpha".toList
  | ascii => "ascii".toList
  | blank => "blank".toList
  | cntrl => "cntrl".toList
  | digit => "digit".toList
  | graph => "graph".toList
  | lower => "lower".toList
  | print => "print".toList
  | punct => "punct".toList
  | space => "space".toList
  | upper => "upper".toList
  | word => "word".toList
  | xdigit => "xdigit".toList

/-- The code points of a class. -/
def ranges : AsciiClass → Unicode.Ranges
  | alnum => [(0x30, 0x39), (0x41, 0x5a), (0x61, 0x7a)]
  | alpha => [(0x41, 0x5a), (0x61, 0x7a)]
  | ascii => [(0, 0x7f)]
  | blank => [(0x09, 0x09), (0x20, 0x20)]
  | cntrl => [(0, 0x1f), (0x7f, 0x7f)]
  | digit => [(0x30, 0x39)]
  | graph => [(0x21, 0x7e)]
  | lower => [(0x61, 0x7a)]
  | print => [(0x20, 0x7e)]
  | punct => [(0x21, 0x2f), (0x3a, 0x40), (0x5b, 0x60), (0x7b, 0x7e)]
  | space => [(0x09, 0x0d), (0x20, 0x20)]
  | upper => [(0x41, 0x5a)]
  | word => [(0x30, 0x39), (0x41, 0x5a), (0x5f, 0x5f), (0x61, 0x7a)]
  | xdigit => [(0x30, 0x39), (0x41, 0x46), (0x61, 0x66)]

end AsciiClass

/-- A set of characters. -/
inductive CharSet where
  /-- No character. -/
  | none
  /-- Every character. -/
  | any
  /-- One character. -/
  | char (c : Char)
  /-- The characters between two, both included. -/
  | range (low high : Char)
  /-- Decimal digits of all scripts. -/
  | digit
  /-- White space. -/
  | blank
  /-- Word characters. -/
  | word
  /-- A named class of ASCII characters. -/
  | ascii (k : AsciiClass)
  /-- The characters with a property. -/
  | property (p : Unicode.Property)
  | union (a b : CharSet)
  | inter (a b : CharSet)
  | compl (a : CharSet)
  /-- The characters that differ from a member in case only, and the members. -/
  | anyCase (a : CharSet)
  /-- The ASCII letters that differ from a member in case only, and the members. -/
  | anyAsciiCase (a : CharSet)
deriving DecidableEq, Repr, Hashable

namespace CharSet

/-- Whether a character is a member. -/
def contains (c : Char) : CharSet → Bool
  | none => false
  | any => true
  | char d => c == d
  | range low high => low ≤ c && c ≤ high
  | digit => Unicode.isDigit c
  | blank => Unicode.isBlank c
  | word => Unicode.isWord c
  | ascii k => k.ranges.contains c
  | property p => p.ranges.contains c
  | union a b => a.contains c || b.contains c
  | inter a b => a.contains c && b.contains c
  | compl a => !a.contains c
  | anyCase a => a.contains c || (Unicode.caseVariants c).any fun d => a.contains d
  | anyAsciiCase a => a.contains c || a.contains c.toLower || a.contains c.toUpper

/-- The code points of the members. -/
def ranges : CharSet → Unicode.Ranges
  | none => []
  | any => [(0, Unicode.lastCodePoint)]
  | char c => [(c.toNat, c.toNat)]
  | range low high => [(low.toNat, high.toNat)]
  | digit => Unicode.Category.decimalNumber
  | blank => Unicode.blanks
  | word => Unicode.wordRanges
  | ascii k => k.ranges
  | property p => p.ranges
  | union a b => Unicode.Ranges.union a.ranges b.ranges
  | inter a b => Unicode.Ranges.inter a.ranges b.ranges
  | compl a => Unicode.Ranges.compl a.ranges
  | anyCase (char c) => Unicode.Ranges.ofPoints ((Unicode.caseVariants c).map Char.toNat)
  | anyCase a => Unicode.Ranges.anyCase a.ranges
  | anyAsciiCase a => Unicode.Ranges.anyAsciiCase a.ranges

/-- The members of one set that are not in another. -/
def diff (a b : CharSet) : CharSet := inter a (compl b)

/-- The members of exactly one of two sets. -/
def symmDiff (a b : CharSet) : CharSet := union (diff a b) (diff b a)

/-- The set or, if `negated`, its complement. -/
def negateIf (negated : Bool) (a : CharSet) : CharSet :=
  if negated then compl a else a

end CharSet
end AnswerKey.Regex
