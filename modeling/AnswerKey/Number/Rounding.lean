/-!
# Rounding

`roundHalfEven` takes a quotient of natural numbers to a nearest natural number,
and to the even one where two are equally near.  `Tie` names the two ways in which a
layout may settle such a case.
-/

namespace AnswerKey.Number

/-- Which of two neighbours counts as the nearer where both are equally near. -/
inductive Tie where
  /-- The even one. -/
  | toEven
  /-- The one further from zero. -/
  | away
deriving DecidableEq, Repr

/-- Whether the lower of two equally near neighbours is taken. -/
def Tie.takesLow (low : Nat) : Tie → Bool
  | toEven => low % 2 == 0
  | away => false

/-- The natural number nearest to `num / den`; of two, the even one. -/
def roundHalfEven (num den : Nat) : Nat :=
  let low := num / den
  let twice := 2 * (num % den)
  if twice < den then low
  else if den < twice then low + 1
  else if Tie.toEven.takesLow low then low else low + 1

end AnswerKey.Number
