import AnswerKey.Number.Literal

/-!
# Natural numbers

A natural number is written in decimal digits, maybe with a plus sign before them,
and fits 64 bits.
-/

namespace AnswerKey.Number

/-- The digits of a number that may have a plus sign before them. -/
def withoutPlus : Text → Text
  | '+' :: digits => digits
  | t => t

/-- The natural number that a text is, if it is one. -/
def natural? (t : Text) : Option Nat :=
  let (digits, rest) := spanDigits (withoutPlus t)
  if digits = [] ∨ rest ≠ [] then none
  else if digitsValue digits < UInt64.size then some (digitsValue digits)
  else none

end AnswerKey.Number
