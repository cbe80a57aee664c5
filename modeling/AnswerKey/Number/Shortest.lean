import AnswerKey.Number.Binary64
import AnswerKey.Number.Decimal
import AnswerKey.Number.Rounding

/-!
# Shortest decimals

The decimal with the fewest digits that reads back as a given binary64 number,
and among those the nearest to it; which of two is taken where both are equally near is
left to the layout.  A decimal reads back if it lies in the
interval of values that round to the number; the ends of that interval count
exactly when the coefficient is even, since ties go to even.  All comparisons are
between natural numbers.
-/

namespace AnswerKey.Number

/-- A positive number as `num / den`, with the distances to the ends of its rounding interval
over the same denominator. -/
structure RoundingInterval where
  num : Nat
  den : Nat
  below : Nat
  above : Nat
  closed : Bool

namespace RoundingInterval

/-- The interval around `coefficient * 2 ^ exponent`.  Below a power of two the numbers are
twice as dense, except at the least exponent. -/
def ofBinary (coefficient : Nat) (exponent : Int) : RoundingInterval :=
  let scale := Nat.pow 2 exponent.toNat
  let narrow := coefficient = Binary64.leastNormal ∧ Binary64.leastExponent < exponent
  { num := 4 * coefficient * scale
    den := 4 * Nat.pow 2 (-exponent).toNat
    below := if narrow then scale else 2 * scale
    above := 2 * scale
    closed := coefficient % 2 = 0 }

/-- How many digits the number has before its decimal point, not positive below one. -/
def pointPosition (r : RoundingInterval) : Int :=
  if r.den ≤ r.num then
    (toString (r.num / r.den)).length
  else
    1 - (toString ((r.den - 1) / r.num)).length

/-- Whether a distance from the number keeps within a bound of the interval. -/
def within (r : RoundingInterval) (distance bound : Nat) : Bool :=
  if r.closed then distance ≤ bound else distance < bound

/-- The nearest decimal with `count` digits that reads back, if there is one. -/
def withDigits? (r : RoundingInterval) (tie : Tie) (count : Nat) : Option Decimal :=
  let unit := r.pointPosition - count
  let up := Nat.pow 10 (-unit).toNat
  let num := r.num * up
  let den := r.den * Nat.pow 10 unit.toNat
  let low := num / den
  let toLow := num - low * den
  let toHigh := den - toLow
  let lowFits := r.within toLow (r.below * up)
  let highFits := r.within toHigh (r.above * up)
  let preferLow := toLow < toHigh ∨ toLow = toHigh ∧ tie.takesLow low
  if lowFits ∧ (preferLow ∨ ¬ highFits) then some ⟨low, unit⟩
  else if highFits then some ⟨low + 1, unit⟩
  else none

/-- The shortest decimal that reads back; seventeen digits always do. -/
def shortest (r : RoundingInterval) (tie : Tie) : Decimal :=
  let found := (List.range 17).findSome? fun i => r.withDigits? tie (i + 1)
  (found.getD ⟨0, 0⟩).strip

end RoundingInterval

/-- The shortest decimal for `coefficient * 2 ^ exponent`. -/
def shortestDecimal (tie : Tie) (coefficient : Nat) (exponent : Int) : Decimal :=
  if coefficient = 0 then ⟨0, 0⟩
  else (RoundingInterval.ofBinary coefficient exponent).shortest tie

end AnswerKey.Number
