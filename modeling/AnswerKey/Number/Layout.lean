import AnswerKey.Number.Rounding
import AnswerKey.Number.Shortest

/-!
# How numbers are laid out

Three layouts of a binary64 number: two places, the shortest digits without an
exponent, and the shortest digits as JSON writes them.  Where two shortest decimals are
equally near, the plain layout takes the one further from zero and JSON the even one.
-/

namespace AnswerKey.Number

/-- The sign of a number as it is written. -/
def signText (negative : Bool) : String :=
  if negative then "-" else ""

/-- The exact value rounded to two places, a half going to the even neighbour. -/
def twoPlaces (x : Float) : String :=
  match Binary64.ofFloat x with
  | .nan => "NaN"
  | .infinite negative => signText negative ++ "inf"
  | .finite negative coefficient exponent =>
    let hundredths :=
      roundHalfEven (100 * coefficient * Nat.pow 2 exponent.toNat) (Nat.pow 2 (-exponent).toNat)
    let cents := hundredths % 100
    let pad := if cents < 10 then "0" else ""
    signText negative ++ toString (hundredths / 100) ++ "." ++ pad ++ toString cents

/-- The shortest digits that read back, never with an exponent. -/
def plain (x : Float) : String :=
  match Binary64.ofFloat x with
  | .nan => "NaN"
  | .infinite negative => signText negative ++ "inf"
  | .finite negative coefficient exponent =>
    signText negative ++ (shortestDecimal .away coefficient exponent).positional ""

/-- The shortest digits that read back, as JSON has them: a number from `1e-5` up to `1e16`
without an exponent and with at least one place, the others with a signed exponent, and
`null` for what JSON cannot express. -/
def json (x : Float) : String :=
  match Binary64.ofFloat x with
  | .nan => "null"
  | .infinite _ => "null"
  | .finite negative coefficient exponent =>
    let d := shortestDecimal .toEven coefficient exponent
    let point := d.pointPosition
    let body :=
      if coefficient = 0 ∨ (-5 < point ∧ point ≤ 16) then d.positional ".0" else d.scientific
    signText negative ++ body

end AnswerKey.Number
