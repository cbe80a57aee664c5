import AnswerKey.Unicode.Addition
import AnswerKey.Unicode.Category
import AnswerKey.Unicode.Trait

/-!
# What can be printed as it is

Controls, format characters, unassigned and private code points, separators other than the blank,
and letters that stand for nothing have no shape of their own.  Extending characters
attach to the one before.
-/

namespace AnswerKey.Unicode

/-- The characters without a shape of their own. -/
def unprintables : Ranges :=
  Ranges.diff (Ranges.unions [Category.other, Category.separator, Trait.defaultIgnorable])
    (Ranges.union [(0x20, 0x20)] Addition.characters)

/-- The characters that attach to the one before; two of the narrow signs of Japanese count as
letters. -/
def extenders : Ranges :=
  Ranges.diff (Ranges.union Trait.graphemeExtend Addition.extenders) [(0xff9e, 0xff9f)]

/-- Whether a character has a shape of its own. -/
def isPrintable (c : Char) : Bool :=
  if c.toNat < 128 then 0x20 ≤ c.toNat && c.toNat < 0x7f else !unprintables.contains c

/-- Whether a character attaches to the one before it. -/
def isExtender (c : Char) : Bool :=
  extenders.contains c

end AnswerKey.Unicode
