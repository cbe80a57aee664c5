import AnswerKey.Proofs.Scoring.Fraction
import AnswerKey.Proofs.Scoring.Points
import AnswerKey.Proofs.Scoring.Single
import AnswerKey.Report.Grades

/-!
# Right, wrong and in between

A grade is judged by a quotient that has been rounded.  It is never right and wrong at once,
whatever the quotient is (`Grade.not_isCorrect_and_isWrong`), so the right ones, the wrong ones and
those left are all of them.  As long as the quotient is one of small numbers, a grade is right just
if all points were awarded and wrong just if none was.
-/

namespace AnswerKey

/-! ## Scores -/

namespace Scoring

variable {b : Block} {separator answer p : Text} {later : List Text}

theorem possible_single (hpatterns : b.patterns = p :: later)
    (hany : b.options.anyOrder = false) : (score b separator answer).possible = 1 := by
  rw [score_of_single hpatterns hany]
  unfold Score.ofBool
  split <;> rfl

/-- Where only the first pattern counts, the score is full if it accepts the answer. -/
theorem full_score_single_iff (hpatterns : b.patterns = p :: later)
    (hany : b.options.anyOrder = false) :
    (score b separator answer).awarded = (score b separator answer).possible ↔
      accepts (compile? b.options p) (prepare b.options answer) = true := by
  rw [score_of_single hpatterns hany]
  cases accepts (compile? b.options p) (prepare b.options answer) <;> decide

end Scoring

/-! ## Grades -/

namespace Grade

variable {g : Grade}

/-- No grade is both right and wrong. -/
theorem not_isCorrect_and_isWrong (g : Grade) : ¬ (g.isCorrect = true ∧ g.isWrong = true) := by
  rintro ⟨hcorrect, hwrong⟩
  exact Number.not_one_le_and_le_zero g.fraction
    ⟨of_decide_eq_true hcorrect, of_decide_eq_true hwrong⟩

theorem verdict_eq_correct_iff : g.verdict = .correct ↔ g.isCorrect = true := by
  unfold verdict
  split
  · next hcorrect => exact iff_of_true rfl hcorrect
  · next hnot => split <;> exact iff_of_false (by decide) hnot

theorem verdict_eq_wrong_iff : g.verdict = .wrong ↔ g.isWrong = true := by
  unfold verdict
  split
  · next hcorrect =>
    exact iff_of_false (by decide) fun hwrong => g.not_isCorrect_and_isWrong ⟨hcorrect, hwrong⟩
  · split
    · next hwrong => exact iff_of_true rfl hwrong
    · next hnot => exact iff_of_false (by decide) hnot

end Grade

/-! ## Graders -/

namespace Grader

variable {text : Text} {key : Key} {n : Nat}

theorem ofText_of_key (hread : Key.read text = .ok key) (n : Nat) :
    ofText text n = ofKey key n := by
  unfold ofText
  rw [hread]

theorem ofKey_of_lt (h : n < key.blocks.length) :
    ∃ g, ofKey key n = .ok g ∧ g.key = key := by
  unfold ofKey
  split
  · exact ⟨_, rfl, rfl⟩
  · next hnone => exact absurd (List.getElem?_eq_none_iff.1 hnone) (Nat.not_le_of_lt h)

/-- A block that is not there is refused, with the number of those that are. -/
theorem ofKey_of_le (h : key.blocks.length ≤ n) :
    ofKey key n = .error (.noBlock n key.blocks.length) := by
  unfold ofKey
  split
  · next b hsome =>
    rw [List.getElem?_eq_none_iff.2 h] at hsome
    cases hsome
  · rfl

theorem read_of_ofText {g : Grader} (h : ofText text n = .ok g) : Key.read text = .ok g.key := by
  unfold ofText at h
  split at h
  · next key hread =>
    unfold ofKey at h
    split at h
    · cases h
      exact hread
    · cases h
  · cases h

/-- A grade is right if all points were awarded. -/
theorem isCorrect_grade_iff (g : Grader) (s : Submission)
    (h : (g.grade s).score.possible < 2 ^ 53) :
    (g.grade s).isCorrect = true ↔ (g.grade s).score.awarded = (g.grade s).score.possible :=
  decide_eq_true_iff.trans
    (Score.one_le_fraction_iff (Scoring.awarded_le _ _ _) (Scoring.possible_pos _ _ _) h)

/-- A grade is wrong if no point was awarded. -/
theorem isWrong_grade_iff (g : Grader) (s : Submission)
    (h : (g.grade s).score.possible < 2 ^ 53) :
    (g.grade s).isWrong = true ↔ (g.grade s).score.awarded = 0 :=
  decide_eq_true_iff.trans
    (Score.fraction_le_zero_iff (Scoring.awarded_le _ _ _) (Scoring.possible_pos _ _ _) h)

/-- Where the first pattern decides, a grade is right if it accepts the answer. -/
theorem isCorrect_grade_single_iff {p : Text} {later : List Text} (g : Grader) (s : Submission)
    (hpatterns : g.block.patterns = p :: later) (hany : g.block.options.anyOrder = false) :
    (g.grade s).isCorrect = true ↔
      Scoring.accepts (Scoring.compile? g.block.options p)
        (Scoring.prepare g.block.options s.text) = true := by
  have hpossible : (g.grade s).score.possible = 1 := Scoring.possible_single hpatterns hany
  rw [g.isCorrect_grade_iff s (by omega)]
  exact Scoring.full_score_single_iff hpatterns hany

/-- The points of an answer whose lines may come in any order. -/
def pointsInAnyOrder (g : Grader) (s : Submission) : Int :=
  let lines := Scoring.answerLines g.block.options g.key.settings.separator s.text
  Scoring.points g.block.patterns.length lines.length
    (Scoring.takenCount Scoring.accepts lines
      (g.block.patterns.map (Scoring.compile? g.block.options)))

/-- Where the patterns may come in any order, a grade is right if there is a point for each. -/
theorem isCorrect_grade_anyOrder_iff (g : Grader) (s : Submission)
    (hpatterns : g.block.patterns ≠ []) (hany : g.block.options.anyOrder = true)
    (h : g.block.patterns.length < 2 ^ 53) :
    (g.grade s).isCorrect = true ↔ g.pointsInAnyOrder s = g.block.patterns.length := by
  have hpossible : (g.grade s).score.possible = g.block.patterns.length :=
    Scoring.possible_anyOrder hpatterns hany _ _
  have hawarded : (g.grade s).score.awarded = (g.pointsInAnyOrder s).toNat :=
    congrArg Score.awarded (Scoring.score_of_anyOrder hany hpatterns _ _)
  have hnonneg : 0 ≤ g.pointsInAnyOrder s := Scoring.points_nonneg _ _ _
  rw [g.isCorrect_grade_iff s (by omega), hpossible, hawarded]
  omega

end Grader

/-! ## Counts -/

namespace Report

/-- Each grade has one of three verdicts. -/
theorem countP_verdict (grades : List Grade) :
    grades.countP (fun g => g.verdict = .correct) +
      grades.countP (fun g => g.verdict = .incomplete) +
        grades.countP (fun g => g.verdict = .wrong) = grades.length := by
  induction grades with
  | nil => rfl
  | cons g grades ih =>
    cases hverdict : g.verdict <;> simp [hverdict] <;> omega

/-- The grades that pass the first test are those whose verdict is right. -/
theorem correctCount_eq (grades : List Grade) :
    correctCount grades = grades.countP fun g => g.verdict = .correct := by
  refine List.countP_congr fun g _ => ?_
  rw [decide_eq_true_iff, Grade.verdict_eq_correct_iff]

/-- The grades that pass the second test are those whose verdict is wrong. -/
theorem wrongCount_eq (grades : List Grade) :
    wrongCount grades = grades.countP fun g => g.verdict = .wrong := by
  refine List.countP_congr fun g _ => ?_
  rw [decide_eq_true_iff, Grade.verdict_eq_wrong_iff]

/-- No grade is counted twice. -/
theorem correctCount_add_wrongCount_le (grades : List Grade) :
    correctCount grades + wrongCount grades ≤ grades.length := by
  have htotal := countP_verdict grades
  rw [correctCount_eq, wrongCount_eq]
  omega

/-- What is left after subtraction are the grades with the third verdict. -/
theorem incompleteCount_eq (grades : List Grade) :
    incompleteCount grades = grades.countP fun g => g.verdict = .incomplete := by
  have htotal := countP_verdict grades
  rw [incompleteCount, correctCount_eq, wrongCount_eq]
  omega

/-- Each grade is counted once. -/
theorem counts_add (grades : List Grade) :
    correctCount grades + incompleteCount grades + wrongCount grades = grades.length := by
  rw [correctCount_eq, incompleteCount_eq, wrongCount_eq, countP_verdict]

end Report
end AnswerKey
