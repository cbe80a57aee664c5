import AnswerKey.Unicode.Addition
import AnswerKey.Unicode.Category
import AnswerKey.Unicode.Trait

/-!
# Letters and numbers of names

Names are made of letters and numbers of all scripts.  A letter has the trait alphabetic, a number
one of the three categories of numbers.  ASCII characters are judged without the tables.
-/

namespace AnswerKey.Unicode

/-- Whether a character is a letter or used like one. -/
def isLetter (c : Char) : Bool :=
  if c.toNat < 128 then c.isAlpha
  else Trait.alphabetic.contains c || Addition.alphabetic.contains c

/-- Whether a character is a letter or a number. -/
def isLetterOrNumber (c : Char) : Bool :=
  if c.toNat < 128 then c.isAlphanum
  else isLetter c || Category.number.contains c || Addition.numbers.contains c

end AnswerKey.Unicode
