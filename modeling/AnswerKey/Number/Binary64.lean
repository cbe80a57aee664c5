/-!
# Binary64 numbers taken apart

A finite number is a sign, a coefficient and a power of two.  The exact value is
then a matter of natural numbers, which is what the decimal layouts work with.
-/

namespace AnswerKey.Number

/-- What a binary64 number denotes. -/
inductive Binary64 where
  /-- Not a number. -/
  | nan
  /-- An infinity of the given sign. -/
  | infinite (negative : Bool)
  /-- `coefficient * 2 ^ exponent`, with a sign. -/
  | finite (negative : Bool) (coefficient : Nat) (exponent : Int)
deriving DecidableEq, Repr

namespace Binary64

/-- The least exponent of a finite number, that of the subnormal ones. -/
def leastExponent : Int := -1074

/-- The coefficient of a power of two among the normal numbers. -/
def leastNormal : Nat := Nat.pow 2 52

/-- A number taken apart: one sign bit, eleven exponent bits, fifty-two coefficient bits. -/
def ofFloat (x : Float) : Binary64 :=
  let bits := x.toBits.toNat
  let negative := Nat.pow 2 63 ≤ bits
  let biased : Nat := bits / Nat.pow 2 52 % Nat.pow 2 11
  let fraction : Nat := bits % Nat.pow 2 52
  if biased = 2047 then
    if fraction = 0 then infinite negative else nan
  else if biased = 0 then
    finite negative fraction leastExponent
  else
    finite negative (leastNormal + fraction) (biased - 1075)

end Binary64
end AnswerKey.Number
