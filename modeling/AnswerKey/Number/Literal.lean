import AnswerKey.Text
import AnswerKey.Number.Decimal

/-!
# Number literals at the front of a text

`Literal.read?` takes the longest decimal literal that a text begins with, and
`leadingInteger` the integer that it begins with.  Whatever follows is left
alone, an unfinished exponent included.
-/

namespace AnswerKey.Number

/-- The maximal run of digits that a text begins with, and what follows it. -/
def spanDigits (t : Text) : Text × Text :=
  (t.takeWhile Char.isDigit, t.dropWhile Char.isDigit)

/-- The number that a run of digits stands for. -/
def digitsValue (digits : Text) : Nat :=
  Nat.ofDigitChars 10 digits 0

/-- An optional sign. -/
def readSign (t : Text) : Option Char × Text :=
  match t with
  | '+' :: rest => (some '+', rest)
  | '-' :: rest => (some '-', rest)
  | _ => (none, t)

/-- The scale part of a literal: its letter, its sign and its digits. -/
structure Exponent where
  letter : Char
  sign : Option Char
  digits : Text
deriving DecidableEq, Repr

/-- A decimal literal, part by part.  `fraction` is there when a point is. -/
structure Literal where
  sign : Option Char
  whole : Text
  fraction : Option Text
  exponent : Option Exponent
deriving DecidableEq, Repr

/-- An exponent, if the text begins with a complete one. -/
def Exponent.read? (t : Text) : Option (Exponent × Text) :=
  match t with
  | [] => none
  | letter :: rest =>
    if letter = 'e' ∨ letter = 'E' then
      let (sign, rest) := readSign rest
      let (digits, rest) := spanDigits rest
      if digits = [] then none else some (⟨letter, sign, digits⟩, rest)
    else none

/-- The exponent as it was written. -/
def Exponent.text (e : Exponent) : Text :=
  e.letter :: e.sign.toList ++ e.digits

/-- The value of an exponent. -/
def Exponent.value (e : Exponent) : Int :=
  if e.sign = some '-' then -(digitsValue e.digits) else digitsValue e.digits

namespace Literal

/-- The digits of a literal around its point: digits that a point may follow, or a point that
digits must follow. -/
def readDigits? (t : Text) : Option ((Text × Option Text) × Text) :=
  let (whole, rest) := spanDigits t
  match rest with
  | '.' :: afterPoint =>
    let (fraction, rest) := spanDigits afterPoint
    if whole = [] ∧ fraction = [] then none else some ((whole, some fraction), rest)
  | _ => if whole = [] then none else some ((whole, none), rest)

/-- The longest literal that a text begins with, and what follows it. -/
def read? (t : Text) : Option (Literal × Text) :=
  let (sign, rest) := readSign t
  match readDigits? rest with
  | none => none
  | some ((whole, fraction), rest) =>
    match Exponent.read? rest with
    | some (exponent, rest) => some (⟨sign, whole, fraction, some exponent⟩, rest)
    | none => some (⟨sign, whole, fraction, none⟩, rest)

/-- The literal as it was written. -/
def text (l : Literal) : Text :=
  let point := match l.fraction with
    | none => []
    | some fraction => '.' :: fraction
  let scale := match l.exponent with
    | none => []
    | some exponent => exponent.text
  l.sign.toList ++ l.whole ++ point ++ scale

/-- The digits and the power of ten that a literal denotes, its sign apart. -/
def decimal (l : Literal) : Decimal :=
  let fraction := l.fraction.getD []
  let scale := (l.exponent.map Exponent.value).getD 0
  ⟨digitsValue (l.whole ++ fraction), scale - fraction.length⟩

end Literal

/-- Beyond this many digits before the point a decimal is infinite, and with as many zeros
behind it zero. -/
def decimalReach : Int := 400

/-- The binary64 number nearest to a decimal. -/
def Decimal.toFloat (d : Decimal) : Float :=
  if d.digits = 0 ∨ d.pointPosition < -decimalReach then 0.0
  else if decimalReach < d.pointPosition then 1.0 / 0.0
  else Float.ofScientific d.digits (d.exponent < 0) d.exponent.natAbs

/-- The binary64 number nearest to a literal. -/
def Literal.toFloat (l : Literal) : Float :=
  let magnitude := l.decimal.toFloat
  if l.sign = some '-' then -magnitude else magnitude

/-- The blanks that may stand before an integer. -/
def isIntegerBlank (c : Char) : Bool :=
  c == ' ' || c == '\t' || c == '\n' || c == '\x0c' || c == '\r' || c == '\x0b'

/-- An integer within the signed 64-bit range, the nearest one if it is outside. -/
def saturate (n : Int) : Int64 :=
  Int64.ofInt (max Int64.minValue.toInt (min Int64.maxValue.toInt n))

/-- The integer that a text begins with, blanks before it aside, if there is one. -/
def leadingInteger? (t : Text) : Option Int :=
  let (sign, rest) := readSign (t.dropWhile isIntegerBlank)
  let (digits, _) := spanDigits rest
  if digits = [] then none
  else if sign = some '-' then some (-(digitsValue digits))
  else some (digitsValue digits)

end AnswerKey.Number
