/-!
# Decimal numbers

A decimal is a natural number of digits and a power of ten.  This module strips
trailing zeros and writes a decimal without an exponent.
-/

namespace AnswerKey.Number

/-- The decimal `digits * 10 ^ exponent`. -/
structure Decimal where
  digits : Nat
  exponent : Int
deriving DecidableEq, Repr

namespace Decimal

/-- The same number with no zero at the end of its digits. -/
def strip (d : Decimal) : Decimal :=
  if 0 < d.digits ∧ d.digits % 10 = 0 then strip ⟨d.digits / 10, d.exponent + 1⟩ else d
termination_by d.digits
decreasing_by
  rename_i h
  exact Nat.div_lt_self h.1 (by decide)

/-- The digits as they are written. -/
def digitText (d : Decimal) : String :=
  toString d.digits

/-- How many digits stand before the decimal point, not positive for a number below one. -/
def pointPosition (d : Decimal) : Int :=
  d.digitText.length + d.exponent

/-- The decimal without an exponent; `whole` follows the digits of a number that has no
fraction. -/
def positional (d : Decimal) (whole : String) : String :=
  let digits := d.digitText
  let point := d.pointPosition
  if 0 ≤ d.exponent then
    digits ++ "".pushn '0' d.exponent.toNat ++ whole
  else if 0 < point then
    let cut := digits.toList.splitAt point.toNat
    String.ofList cut.1 ++ "." ++ String.ofList cut.2
  else
    "0." ++ "".pushn '0' (-point).toNat ++ digits

/-- The decimal with one digit before the point and a power of ten behind it. -/
def scientific (d : Decimal) : String :=
  let power := d.pointPosition - 1
  let digits := d.digitText.toList
  let lead := match digits with
    | [] => ""
    | [c] => String.singleton c
    | c :: rest => String.singleton c ++ "." ++ String.ofList rest
  let sign := if power < 0 then "-" else "+"
  lead ++ "e" ++ sign ++ toString power.natAbs

end Decimal
end AnswerKey.Number
