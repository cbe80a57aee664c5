import AnswerKey.Unicode.Category
import AnswerKey.Unicode.Trait

/-!
# Digits and word characters

The digits are those of all scripts.  A word character is a letter or used like one, a mark, a
digit, a connector such as the underscore, or a joiner.  ASCII characters are judged without
the tables.
-/

namespace AnswerKey.Unicode

/-- Whether a character is a decimal digit. -/
def isDigit (c : Char) : Bool :=
  if c.toNat < 128 then c.isDigit else Category.decimalNumber.contains c

/-- The word characters. -/
def wordRanges : Ranges :=
  Ranges.unions
    [Trait.alphabetic, Category.mark, Category.decimalNumber, Category.connectorPunctuation,
     Trait.joinControl]

/-- Whether a character may stand in a word. -/
def isWord (c : Char) : Bool :=
  if c.toNat < 128 then c.isAlphanum || c == '_' else wordRanges.contains c

end AnswerKey.Unicode
