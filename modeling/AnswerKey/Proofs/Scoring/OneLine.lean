import AnswerKey.Proofs.Text.Padding
import AnswerKey.Proofs.Scoring.Points
import AnswerKey.Proofs.Scoring.Single

/-!
# Answers of one line

An answer that its separator does not divide has one line, and the two ways to score it agree: where
the patterns may come in any order there is one point if some pattern accepts the answer by itself,
and none otherwise.
-/

namespace AnswerKey.Scoring

variable {b : Block} {o : Options} {p separator t answer : Text}

/-! ## The only line -/

theorem splitAnswer_of_absent (h : separator = [] ∨ ¬ separator <:+: t) :
    splitAnswer separator t = [t] := by
  unfold splitAnswer
  split
  · rfl
  · next hne =>
    refine Text.Delimiter.split_of_find?_eq_none (Text.Delimiter.find?_eq_none_iff.2 ?_)
    intro u v he _
    show (Text.after? separator v).map _ = none
    rw [Option.map_eq_none_iff, Option.eq_none_iff_forall_ne_some]
    intro rest hrest
    refine h.resolve_left hne ⟨u, rest, ?_⟩
    rw [he, Text.after?_eq_some.1 hrest, List.append_assoc]

theorem prepare_prepare (o : Options) (t : Text) : prepare o (prepare o t) = prepare o t := by
  unfold prepare
  split
  · exact Text.trim_trim t
  · rfl

/-- An answer without a separator is its only line. -/
theorem answerLines_of_absent (h : separator = [] ∨ ¬ separator <:+: prepare o answer) :
    answerLines o separator answer = [prepare o answer] := by
  rw [answerLines, splitAnswer_of_absent h, List.map_singleton, prepare_prepare]

/-- With one line the points are the lines that are taken. -/
theorem points_of_one_line {n taken : Nat} (hn : 0 < n) : points n 1 taken = taken := by
  rw [points_eq]
  omega

/-! ## One pattern -/

/-- A block with one of the patterns only, which then decides. -/
def alone (b : Block) (p : Text) : Block :=
  { b with patterns := [p], options := { b.options with anyOrder := false } }

theorem score_alone (b : Block) (p separator answer : Text) :
    score (alone b p) separator answer =
      .ofBool (accepts (compile? b.options p) (prepare b.options answer)) :=
  score_of_single rfl rfl separator answer

/-- The pattern scores the answer 1 if it accepts it. -/
theorem fraction_alone_eq_one_iff :
    (score (alone b p) separator answer).fraction = 1.0 ↔
      accepts (compile? b.options p) (prepare b.options answer) = true := by
  rw [score_alone]
  exact Score.fraction_ofBool_eq_one_iff

theorem fraction_alone_eq_one_iff_full :
    (score (alone b p) separator answer).fraction = 1.0 ↔
      score (alone b p) separator answer = ⟨1, 1⟩ := by
  rw [fraction_alone_eq_one_iff, score_alone]
  exact Score.ofBool_eq_full_iff.symm

/-! ## Both ways -/

/-- The points for an answer of one line are the lines that are taken, none or one. -/
theorem score_of_one_line (hany : b.options.anyOrder = true) (hpatterns : b.patterns ≠ [])
    (hone : separator = [] ∨ ¬ separator <:+: prepare b.options answer) :
    score b separator answer = ⟨takenCount accepts [prepare b.options answer]
      (b.patterns.map (compile? b.options)), b.patterns.length⟩ := by
  rw [score_of_anyOrder hany hpatterns, answerLines_of_absent hone, List.length_singleton,
    points_of_one_line (List.length_pos_iff.2 hpatterns), Int.toNat_natCast]

/-- The line is left if no pattern accepts it by itself. -/
theorem takenCount_of_one_line_eq_zero_iff (b : Block) (separator answer : Text) :
    takenCount accepts [prepare b.options answer] (b.patterns.map (compile? b.options)) = 0 ↔
      ∀ p ∈ b.patterns, (score (alone b p) separator answer).fraction ≠ 1.0 := by
  rw [takenCount_eq_zero_iff, List.forall_mem_map]
  simp only [List.forall_mem_singleton, ne_eq, fraction_alone_eq_one_iff]

/-- An answer of one line takes one point where the patterns may come in any order if one of them
scores it 1 by itself, and none otherwise; so a single pattern scores it alike in both ways. -/
theorem score_anyOrder_of_one_line (b : Block) (separator answer : Text)
    (hany : b.options.anyOrder = true) (hpatterns : b.patterns ≠ [])
    (hone : separator = [] ∨ ¬ separator <:+: prepare b.options answer) :
    ((∃ p ∈ b.patterns, (score (alone b p) separator answer).fraction = 1.0) →
      score b separator answer = ⟨1, b.patterns.length⟩ ∧
      (score b separator answer).fraction = (1 : Nat).toFloat / b.patterns.length.toFloat) ∧
    ((∀ p ∈ b.patterns, (score (alone b p) separator answer).fraction ≠ 1.0) →
      score b separator answer = ⟨0, b.patterns.length⟩ ∧
      (score b separator answer).fraction = 0.0) ∧
    (∀ p, (score (alone b p) separator answer).fraction = 1.0 ↔
      score (alone b p) separator answer = ⟨1, 1⟩) ∧
    ∀ p, b.patterns = [p] → score b separator answer = score (alone b p) separator answer := by
  have hscore := score_of_one_line hany hpatterns hone
  have hzero := takenCount_of_one_line_eq_zero_iff b separator answer
  have hle : takenCount accepts [prepare b.options answer]
      (b.patterns.map (compile? b.options)) ≤ 1 := takenCount_le_lines
  generalize takenCount accepts [prepare b.options answer]
    (b.patterns.map (compile? b.options)) = taken at hscore hzero hle
  -- some pattern takes the only line
  have hsome : (∃ p ∈ b.patterns, (score (alone b p) separator answer).fraction = 1.0) →
      score b separator answer = ⟨1, b.patterns.length⟩ := by
    rintro ⟨p, hp, hfull⟩
    have hne : taken ≠ 0 := fun h => hzero.1 h p hp hfull
    obtain rfl : taken = 1 := by omega
    exact hscore
  -- none of them does
  have hnone : (∀ p ∈ b.patterns, (score (alone b p) separator answer).fraction ≠ 1.0) →
      score b separator answer = ⟨0, b.patterns.length⟩ := by
    intro hnot
    rw [hscore, hzero.2 hnot]
  refine ⟨fun h => ⟨hsome h, ?_⟩, fun h => ⟨hnone h, ?_⟩,
    fun p => fraction_alone_eq_one_iff_full, fun p hp => ?_⟩
  · rw [hsome h]
    rfl
  · rw [hnone h]
    exact Score.fraction_of_none (List.length_pos_iff.2 hpatterns)
  -- with one pattern both scores are told by whether it accepts the line
  · by_cases hfull : (score (alone b p) separator answer).fraction = 1.0
    · rw [hsome ⟨p, by simp [hp], hfull⟩, fraction_alone_eq_one_iff_full.1 hfull, hp,
        List.length_singleton]
    · rw [hnone (by simpa [hp] using hfull), hp, List.length_singleton]
      rw [fraction_alone_eq_one_iff, Bool.not_eq_true] at hfull
      rw [score_alone, hfull]
      rfl

/-- The second pattern is no expression and the third one accepts the answer, which holds no
separator once it is trimmed. -/
theorem score_anyOrder_of_one_line_sample :
    let b : Block := ⟨100, ["a".toList, "(".toList, "b|c+".toList], { anyOrder := true }⟩
    (score b ['\n'] "\ncc\n".toList = ⟨1, 3⟩ ∧
      (score b ['\n'] "\ncc\n".toList).fraction = 1.0 / 3.0) ∧
    score b [] "a\nb".toList = ⟨0, 3⟩ ∧ (score b [] "a\nb".toList).fraction = 0.0 := by
  intro b
  have hpatterns : b.patterns ≠ [] := by decide
  obtain ⟨hsome, -, hfull, -⟩ := score_anyOrder_of_one_line b ['\n'] "\ncc\n".toList rfl hpatterns
    (.inr (by decide))
  obtain ⟨-, hnone, -, -⟩ := score_anyOrder_of_one_line b [] "a\nb".toList rfl hpatterns (.inl rfl)
  have hlast : (score (alone b "b|c+".toList) ['\n'] "\ncc\n".toList).fraction = 1.0 :=
    (hfull _).2 (by decide +kernel)
  obtain ⟨hthird, hfraction⟩ := hsome ⟨"b|c+".toList, by decide, hlast⟩
  exact ⟨⟨hthird, hfraction.trans (by decide +kernel)⟩, hnone (by decide +kernel)⟩

end AnswerKey.Scoring
