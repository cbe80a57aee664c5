import AnswerKey.Proofs.Number.Fraction
import AnswerKey.Scoring

/-!
# Scores as fractions

A score is returned as a quotient that has been rounded.  Nothing is 0 exactly, however many points
were possible, and all or nothing is 1 or 0 (`Score.fraction_ofBool`).  Of few points the quotient
tells whether all of them were awarded, and whether none was.
-/

namespace AnswerKey.Score

variable {matched : Bool}

/-- No point is 0, out of however many. -/
theorem fraction_of_none {n : Nat} (hpos : 0 < n) : (⟨0, n⟩ : Score).fraction = 0.0 :=
  Number.zero_div_toFloat hpos

/-- All or nothing is 1 or 0. -/
theorem fraction_ofBool (matched : Bool) :
    (ofBool matched).fraction = if matched then 1.0 else 0.0 := by
  cases matched with
  | true => decide +kernel
  | false => exact fraction_of_none Nat.one_pos

theorem fraction_ofBool_eq_one_iff : (ofBool matched).fraction = 1.0 ↔ matched = true := by
  rw [fraction_ofBool]
  cases matched <;> decide +kernel

theorem ofBool_eq_full_iff : ofBool matched = ⟨1, 1⟩ ↔ matched = true := by
  cases matched <;> decide

/-- Few points are at least 1 only if all of them were awarded. -/
theorem one_le_fraction_iff {s : Score} (hle : s.awarded ≤ s.possible) (hpos : 0 < s.possible)
    (hlt : s.possible < 2 ^ 53) : 1.0 ≤ s.fraction ↔ s.awarded = s.possible :=
  Number.one_le_div_iff hle hpos hlt

/-- Few points are at most 0 only if none was awarded. -/
theorem fraction_le_zero_iff {s : Score} (hle : s.awarded ≤ s.possible) (hpos : 0 < s.possible)
    (hlt : s.possible < 2 ^ 53) : s.fraction ≤ 0.0 ↔ s.awarded = 0 :=
  Number.div_le_zero_iff hle hpos hlt

end AnswerKey.Score
