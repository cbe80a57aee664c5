import AnswerKey.Proofs.Scoring.Assignment
import AnswerKey.Scoring
import Mathlib.Algebra.Group.Nat.Defs

/-!
# Points for lines in any order

Where `m` of `L` lines are taken by `n` patterns, the points are `m` less the lines that are too
many.  Computed step by step in words of 64 bits the points are the same: no step leaves the range
of a word as long as there are fewer than `2 ^ 63` patterns and lines.
-/

namespace AnswerKey.Scoring

/-! ## The closed form -/

section

variable {n present taken : Nat}

/-- Each line that is taken is a point, and each line too many takes one away. -/
theorem points_eq (n present taken : Nat) :
    points n present taken = max 0 ((taken : Int) - max 0 ((present : Int) - n)) := by
  simp only [points]
  omega

theorem points_nonneg (n present taken : Nat) : 0 ≤ points n present taken := by
  simp only [points]
  omega

theorem points_le (hn : taken ≤ n) : points n present taken ≤ n := by
  rw [points_eq]
  omega

/-- All points are scored just if there are as many lines as patterns and all are taken. -/
theorem points_eq_patterns_iff (hpos : 0 < n) (hn : taken ≤ n) (hpresent : taken ≤ present) :
    points n present taken = n ↔ present = n ∧ taken = n := by
  rw [points_eq]
  omega

/-- There are no points just if no more lines are taken than there are too many. -/
theorem points_eq_zero_iff :
    points n present taken = 0 ↔ (taken : Int) ≤ max 0 ((present : Int) - n) := by
  rw [points_eq]
  omega

/-! ## Words -/

/-- A whole number as a signed word of 64 bits, if it is one. -/
def word? (i : Int) : Option Int :=
  if Int64.minValue.toInt ≤ i ∧ i ≤ Int64.maxValue.toInt then some i else none

theorem word?_of_mem {i : Int} (hlow : -9223372036854775808 ≤ i) (hhigh : i ≤ 9223372036854775807) :
    word? i = some i :=
  if_pos ⟨hlow, hhigh⟩

/-- The points computed in words, each step of the computation on its own. -/
def wordPoints? (patterns lines untaken : Nat) : Option Int := do
  let possible ← word? patterns
  let present ← word? lines
  let unmatched ← word? untaken
  let delta ← word? (possible - present)
  let distance ← word? delta.natAbs
  let remaining ← word? (possible - distance)
  let surplus ← word? (-delta)
  let charged ← word? (max surplus 0)
  let excess ← word? (unmatched - charged)
  let difference ← word? (remaining - excess)
  word? (max difference 0)

/-- No step of the computation leaves the range of a word. -/
theorem wordPoints?_eq {untaken : Nat} (hpatterns : n < 2 ^ 63) (hlines : present < 2 ^ 63)
    (hn : taken ≤ n) (huntaken : taken + untaken = present) :
    wordPoints? n present untaken = some (points n present taken) := by
  -- each step lies between `-2 ^ 63` and `2 ^ 63`, as no more lines are untaken than there are
  have hpossible : word? (n : Int) = some (n : Int) := word?_of_mem (by omega) (by omega)
  have hpresent : word? (present : Int) = some (present : Int) := word?_of_mem (by omega) (by omega)
  have hunmatched : word? (untaken : Int) = some (untaken : Int) :=
    word?_of_mem (by omega) (by omega)
  have hdelta : word? ((n : Int) - present) = some ((n : Int) - present) :=
    word?_of_mem (by omega) (by omega)
  have hdistance : word? ((n : Int) - present).natAbs = some (((n : Int) - present).natAbs : Int) :=
    word?_of_mem (by omega) (by omega)
  have hremaining : word? ((n : Int) - ((n : Int) - present).natAbs) =
      some ((n : Int) - ((n : Int) - present).natAbs) := word?_of_mem (by omega) (by omega)
  have hsurplus : word? (-((n : Int) - present)) = some (-((n : Int) - present)) :=
    word?_of_mem (by omega) (by omega)
  have hcharged : word? (max (-((n : Int) - present)) 0) = some (max (-((n : Int) - present)) 0) :=
    word?_of_mem (by omega) (by omega)
  have hexcess : word? ((untaken : Int) - max (-((n : Int) - present)) 0) =
      some ((untaken : Int) - max (-((n : Int) - present)) 0) :=
    word?_of_mem (by omega) (by omega)
  have hdifference : word? ((n : Int) - ((n : Int) - present).natAbs -
      (untaken - max (-((n : Int) - present)) 0)) = some ((n : Int) - ((n : Int) - present).natAbs -
        (untaken - max (-((n : Int) - present)) 0)) := word?_of_mem (by omega) (by omega)
  have hpoints : max ((n : Int) - ((n : Int) - present).natAbs -
      (untaken - max (-((n : Int) - present)) 0)) 0 = points n present taken := by
    rw [points_eq]
    omega
  simp only [wordPoints?, hpossible, hpresent, hunmatched, hdelta, hdistance, hremaining, hsurplus,
    hcharged, hexcess, hdifference, hpoints, Option.bind_eq_bind, Option.bind_some]
  have hle : points n present taken ≤ n := points_le hn
  have hnonneg := points_nonneg n present taken
  exact word?_of_mem (by omega) (by omega)

end

/-! ## Lines that are not taken -/

section

variable {α β : Type} {accepts : β → α → Bool} {lines : List α} {patterns : List β}

/-- How many lines no pattern has taken. -/
def untakenCount (accepts : β → α → Bool) (lines : List α) (patterns : List β) : Nat :=
  ((List.range lines.length).filter fun i => !(takenLines accepts lines patterns).contains i).length

/-- Each line is taken or not. -/
theorem takenCount_add_untakenCount :
    takenCount accepts lines patterns + untakenCount accepts lines patterns = lines.length := by
  have hperm : ((List.range lines.length).filter
      fun i => (takenLines accepts lines patterns).contains i).Perm
        (takenLines accepts lines patterns) := by
    refine (List.perm_ext_iff_of_nodup (List.nodup_range.filter _) takenLines_nodup).2 fun i => ?_
    rw [List.mem_filter, List.mem_range, List.contains_iff_mem]
    exact ⟨fun h => h.2, fun h => ⟨lt_of_mem_takenLines h, h⟩⟩
  have hsplit := List.length_eq_length_filter_add (l := List.range lines.length)
    fun i => (takenLines accepts lines patterns).contains i
  rw [hperm.length_eq, List.length_range] at hsplit
  exact hsplit.symm

end

/-! ## Any order -/

/-- A text has at least one piece. -/
theorem splitAnswer_ne_nil (separator t : Text) : splitAnswer separator t ≠ [] := by
  unfold splitAnswer
  split
  · simp
  · rw [Text.Delimiter.split]
    split <;> simp

/-- An answer has at least one line. -/
theorem answerLines_length_pos (o : Options) (separator answer : Text) :
    1 ≤ (answerLines o separator answer).length := by
  unfold answerLines
  rw [List.length_map]
  exact List.length_pos_iff.2 (splitAnswer_ne_nil separator _)

/-- Nothing is divided by an empty separator. -/
theorem answerLines_nil (o : Options) (answer : Text) :
    answerLines o [] answer = [prepare o (prepare o answer)] := rfl

/-- A pattern that is no expression takes no line. -/
theorem assignment_of_not_compiled {o : Options} {patterns lines : List Text} {k : Nat} {p : Text}
    (hp : patterns[k]? = some p) (hno : compile? o p = none) :
    (assignment accepts lines (patterns.map (compile? o)))[k]? = some none := by
  have hk : (patterns.map (compile? o))[k]? = some none := by
    rw [List.getElem?_map, hp, Option.map_some, hno]
  obtain ⟨t, ht, htakes⟩ := assignment_takes accepts lines hk
  rcases t with _ | i
  · exact ht
  · obtain ⟨line, -, haccepts⟩ := htakes.accepted i rfl
    cases haccepts

/-- The score of a block in any order, by the lines that are taken. -/
theorem score_of_anyOrder {b : Block} (hany : b.options.anyOrder = true) (hpatterns : b.patterns ≠ [])
    (separator answer : Text) :
    score b separator answer =
      ⟨(points b.patterns.length (answerLines b.options separator answer).length
        (takenCount accepts (answerLines b.options separator answer)
          (b.patterns.map (compile? b.options)))).toNat, b.patterns.length⟩ := by
  unfold score scoreAnyOrder
  rw [if_pos hany, if_neg hpatterns]

/-- No more points are awarded than are possible. -/
theorem awarded_le (b : Block) (separator answer : Text) :
    (score b separator answer).awarded ≤ (score b separator answer).possible := by
  unfold score
  split
  · unfold scoreAnyOrder
    split
    · decide
    · have htaken : takenCount accepts (answerLines b.options separator answer)
          (b.patterns.map (compile? b.options)) ≤ (b.patterns.map (compile? b.options)).length :=
        takenCount_le_patterns
      rw [List.length_map] at htaken
      exact Int.toNat_le.2 (points_le htaken)
  · unfold scoreSingle Score.ofBool
    split
    · decide
    · split <;> decide

theorem possible_pos (b : Block) (separator answer : Text) :
    0 < (score b separator answer).possible := by
  unfold score
  split
  · unfold scoreAnyOrder
    split
    · decide
    · next hpatterns => exact List.length_pos_iff.2 hpatterns
  · unfold scoreSingle Score.ofBool
    split
    · decide
    · split <;> decide

theorem possible_anyOrder {b : Block} (hpatterns : b.patterns ≠ [])
    (hany : b.options.anyOrder = true) (separator answer : Text) :
    (score b separator answer).possible = b.patterns.length := by
  rw [score_of_anyOrder hany hpatterns]

/-- A score is full where there are as many lines as patterns and each pattern takes one. -/
theorem full_score_anyOrder_iff {b : Block} (hany : b.options.anyOrder = true)
    (hpatterns : b.patterns ≠ []) (separator answer : Text) :
    (score b separator answer).awarded = (score b separator answer).possible ↔
      (answerLines b.options separator answer).length = b.patterns.length ∧
        ∀ t ∈ assignment accepts (answerLines b.options separator answer)
          (b.patterns.map (compile? b.options)), t ≠ none := by
  have hcompiled : (b.patterns.map (compile? b.options)).length = b.patterns.length :=
    List.length_map _
  rw [score_of_anyOrder hany hpatterns, ← takenCount_eq_iff, hcompiled]
  generalize hlines : answerLines b.options separator answer = lines
  generalize htaken : takenCount accepts lines (b.patterns.map (compile? b.options)) = taken
  -- no more is taken than there is
  have hle : taken ≤ b.patterns.length := by
    rw [← htaken, ← hcompiled]
    exact takenCount_le_patterns
  have hpresent : taken ≤ lines.length := htaken ▸ takenCount_le_lines
  have hpos := List.length_pos_iff.2 hpatterns
  rw [← points_eq_patterns_iff hpos hle hpresent]
  have hnonneg := points_nonneg b.patterns.length lines.length taken
  show (points b.patterns.length lines.length taken).toNat = b.patterns.length ↔ _
  omega

/-- The score where the patterns may come in any order.  A pattern that is no expression takes no
line and still counts. -/
theorem score_anyOrder_closed_form (b : Block) (separator answer : Text)
    (hany : b.options.anyOrder = true) (hpatterns : b.patterns ≠ []) :
    let n := b.patterns.length
    let lines := answerLines b.options separator answer
    let compiled := b.patterns.map (compile? b.options)
    let taken := takenCount accepts lines compiled
    let value := points n lines.length taken
    (1 ≤ lines.length ∧ (separator = [] → lines.length = 1) ∧ taken ≤ min n lines.length) ∧
      (n < 2 ^ 63 → lines.length < 2 ^ 63 →
        wordPoints? n lines.length (untakenCount accepts lines compiled) = some value) ∧
      value = max 0 ((taken : Int) - max 0 ((lines.length : Int) - n)) ∧
      score b separator answer = ⟨value.toNat, n⟩ ∧
      (score b separator answer).fraction = value.toNat.toFloat / n.toFloat ∧
      (0 ≤ value ∧ value ≤ n) ∧
      (value = n ↔ lines.length = n ∧ ∀ t ∈ assignment accepts lines compiled, t ≠ none) ∧
      (value = 0 ↔ (taken : Int) ≤ max 0 ((lines.length : Int) - n)) ∧
      ∀ (k : Nat) (p : Text), b.patterns[k]? = some p → compile? b.options p = none →
        (assignment accepts lines compiled)[k]? = some none := by
  intro n lines compiled taken value
  have hcompiled : compiled.length = n := List.length_map _
  have hn : taken ≤ n := hcompiled ▸ takenCount_le_patterns
  have hlines : taken ≤ lines.length := takenCount_le_lines
  have hpos : 0 < n := List.length_pos_iff.2 hpatterns
  have hscore : score b separator answer = ⟨value.toNat, n⟩ :=
    score_of_anyOrder hany hpatterns separator answer
  refine ⟨⟨?_, ?_, ?_⟩, ?_, ?_, hscore, ?_, ⟨?_, ?_⟩, ?_, ?_, ?_⟩
  -- how many lines there are and are taken
  · exact answerLines_length_pos b.options separator answer
  · intro hseparator
    show (answerLines b.options separator answer).length = 1
    rw [hseparator, answerLines_nil, List.length_singleton]
  · omega
  -- what is computed
  · intro hfew hshort
    exact wordPoints?_eq hfew hshort hn takenCount_add_untakenCount
  · exact points_eq n lines.length taken
  · rw [hscore]
    rfl
  · exact points_nonneg n lines.length taken
  · exact points_le hn
  -- what the greatest and the least points mean
  · have hfull : value = n ↔ lines.length = n ∧ taken = n := points_eq_patterns_iff hpos hn hlines
    rw [hfull, ← hcompiled, takenCount_eq_iff]
  · exact points_eq_zero_iff
  -- what is no expression
  · intro k p hp hno
    exact assignment_of_not_compiled hp hno

/-- A block with two patterns and one that is no expression. -/
def anyOrderBlock : Block :=
  ⟨100, ["a+".toList, "(".toList, "b".toList], { anyOrder := true }⟩

/-- Of four lines two are taken, and one is too many. -/
theorem score_anyOrderBlock :
    score anyOrderBlock ['\n'] "b\nx\naa\ny".toList = ⟨1, 3⟩ ∧
      (score anyOrderBlock ['\n'] "b\nx\naa\ny".toList).fraction = 1.0 / 3.0 ∧
      (assignment accepts (answerLines anyOrderBlock.options ['\n'] "b\nx\naa\ny".toList)
        (anyOrderBlock.patterns.map (compile? anyOrderBlock.options)))[1]? = some none := by
  obtain ⟨-, -, -, hscore, hfraction, -, -, -, hnone⟩ := score_anyOrder_closed_form anyOrderBlock
    ['\n'] "b\nx\naa\ny".toList rfl (by decide)
  exact ⟨hscore.trans (by decide +kernel), hfraction.trans (by decide +kernel),
    hnone 1 "(".toList rfl (by decide +kernel)⟩

end AnswerKey.Scoring
