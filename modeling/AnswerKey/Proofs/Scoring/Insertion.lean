import AnswerKey.Proofs.Scoring.Points
import AnswerKey.Proofs.Scoring.Remaining

/-!
# One line more

A line more can change what every later pattern takes.  Still, whichever patterns have taken their
lines, the lines that are left with it are those that are left without it and at most one more, so
at most one more line is taken.  As long as lines are missing this can only raise the points, and
then it can only lower them, by one at most.
-/

namespace AnswerKey.Scoring

section

variable {α β : Type} {accepts : β → α → Bool} {patterns : List β} {q : α → Bool} {l m u v : List α}
  {y : α}

/-! ## Two lists of lines -/

/-- Two lists that are equal but for one element that the second may have more. -/
inductive OneMore : List α → List α → Prop where
  | same (l : List α) : OneMore l l
  | more (u : List α) (y : α) (v : List α) : OneMore (u ++ v) (u ++ y :: v)

/-- What is taken out of both lists is in front of the additional element, or behind it. -/
theorem eraseP_insert_of_neg (hy : ¬ q y = true) (u v : List α) :
    ∃ u' v', (u ++ v).eraseP q = u' ++ v' ∧ (u ++ y :: v).eraseP q = u' ++ y :: v' := by
  by_cases hu : ∃ a ∈ u, q a = true
  · obtain ⟨a, ha, hqa⟩ := hu
    exact ⟨u.eraseP q, v, List.eraseP_append_left hqa v ha,
      List.eraseP_append_left hqa (y :: v) ha⟩
  · have hno : ∀ a ∈ u, ¬ q a = true := fun a ha hqa => hu ⟨a, ha, hqa⟩
    refine ⟨u, v.eraseP q, List.eraseP_append_right v hno, ?_⟩
    rw [List.eraseP_append_right _ hno, List.eraseP_cons_of_neg hy]

/-- Where the additional element is taken out of its list, what is taken out of the other one is an
additional element then. -/
theorem oneMore_eraseP_of_pos (hy : q y = true) (u v : List α) :
    OneMore ((u ++ v).eraseP q) ((u ++ y :: v).eraseP q) := by
  by_cases hu : ∃ a ∈ u, q a = true
  · obtain ⟨a, ha, hqa⟩ := hu
    rw [List.eraseP_append_left hqa v ha, List.eraseP_append_left hqa (y :: v) ha]
    exact .more (u.eraseP q) y v
  · have hno : ∀ a ∈ u, ¬ q a = true := fun a ha hqa => hu ⟨a, ha, hqa⟩
    rw [List.eraseP_append_right v hno, List.eraseP_append_right _ hno, List.eraseP_cons_of_pos hy]
    rcases List.exists_or_eq_self_of_eraseP q v with hnone | ⟨z, v₁, v₂, -, -, hv, herase⟩
    · rw [hnone]
      exact .same (u ++ v)
    · have hmore := OneMore.more (u ++ v₁) z v₂
      rw [List.append_assoc, List.append_assoc] at hmore
      rw [herase, hv]
      exact hmore

theorem OneMore.eraseP (h : OneMore l m) (q : α → Bool) : OneMore (l.eraseP q) (m.eraseP q) := by
  cases h with
  | same l => exact .same (l.eraseP q)
  | more u y v =>
    by_cases hy : q y = true
    · exact oneMore_eraseP_of_pos hy u v
    · obtain ⟨u', v', hl, hm⟩ := eraseP_insert_of_neg hy u v
      rw [hl, hm]
      exact .more u' y v'

theorem OneMore.leftLines (h : OneMore l m) (accepts : β → α → Bool) (patterns : List β) :
    OneMore (leftLines accepts l patterns) (leftLines accepts m patterns) := by
  induction patterns generalizing l m with
  | nil => exact h
  | cons p patterns ih => exact ih (h.eraseP (accepts p))

theorem OneMore.length (h : OneMore l m) : m.length = l.length ∨ m.length = l.length + 1 := by
  cases h with
  | same l => exact .inl rfl
  | more u y v =>
    right
    simp only [List.length_append, List.length_cons]
    omega

/-- A line that no pattern accepts is left with all the lines that are left without it. -/
theorem leftLines_insert_of_rejected (hy : ∀ p ∈ patterns, accepts p y = false) (u v : List α) :
    ∃ u' v', leftLines accepts (u ++ v) patterns = u' ++ v' ∧
      leftLines accepts (u ++ y :: v) patterns = u' ++ y :: v' := by
  induction patterns generalizing u v with
  | nil => exact ⟨u, v, rfl, rfl⟩
  | cons p patterns ih =>
    have hp : ¬ accepts p y = true := by simp [hy p List.mem_cons_self]
    obtain ⟨u', v', hshort, hlong⟩ := eraseP_insert_of_neg hp u v
    rw [leftLines_cons, leftLines_cons, hshort, hlong]
    exact ih (fun p' hp' => hy p' (List.mem_cons_of_mem p hp')) u' v'

/-! ## How many lines are taken -/

/-- With one line more as many lines are taken, or one more. -/
theorem takenCount_insert (accepts : β → α → Bool) (u v : List α) (y : α) (patterns : List β) :
    takenCount accepts (u ++ y :: v) patterns = takenCount accepts (u ++ v) patterns ∨
      takenCount accepts (u ++ y :: v) patterns = takenCount accepts (u ++ v) patterns + 1 := by
  have hshort := takenCount_add_length_leftLines accepts (u ++ v) patterns
  have hlong := takenCount_add_length_leftLines accepts (u ++ y :: v) patterns
  have hleft := ((OneMore.more u y v).leftLines accepts patterns).length
  simp only [List.length_append, List.length_cons] at hshort hlong
  omega

theorem takenCount_insert_of_rejected (hy : ∀ p ∈ patterns, accepts p y = false) (u v : List α) :
    takenCount accepts (u ++ y :: v) patterns = takenCount accepts (u ++ v) patterns := by
  have hshort := takenCount_add_length_leftLines accepts (u ++ v) patterns
  have hlong := takenCount_add_length_leftLines accepts (u ++ y :: v) patterns
  obtain ⟨u', v', hleft, hleft'⟩ := leftLines_insert_of_rejected hy u v
  rw [hleft] at hshort
  rw [hleft'] at hlong
  simp only [List.length_append, List.length_cons] at hshort hlong
  omega

end

/-! ## Points -/

/-- One line more moves the points by one at most: up while lines are missing, and then down. -/
theorem points_insert (n present : Nat) {taken taken' : Nat}
    (h : taken' = taken ∨ taken' = taken + 1) :
    (points n (present + 1) taken' - points n present taken).natAbs ≤ 1 ∧
      (present < n → points n present taken ≤ points n (present + 1) taken') ∧
      (n ≤ present → points n (present + 1) taken' ≤ points n present taken) := by
  rw [points_eq, points_eq]
  omega

/-- One line more that is not taken is charged for once there are enough. -/
theorem points_insert_of_rejected (n present taken : Nat) :
    (present < n → points n (present + 1) taken = points n present taken) ∧
      (n ≤ present → points n (present + 1) taken = max 0 (points n present taken - 1)) := by
  rw [points_eq, points_eq]
  omega

/-- An answer with one line more than another, wherever it stands.  As many lines are taken or one
more, and the points differ by one at most; they do not fall while lines are missing, and do not
rise otherwise.  A line that no pattern accepts costs a point if no line is missing, as long as there
is a point left. -/
theorem score_anyOrder_insert (b : Block) (separator answer longer : Text) (before behind : List Text)
    (line : Text) (hany : b.options.anyOrder = true) (hpatterns : b.patterns ≠ [])
    (hanswer : answerLines b.options separator answer = before ++ behind)
    (hlonger : answerLines b.options separator longer = before ++ line :: behind) :
    let n := b.patterns.length
    let present := (before ++ behind).length
    let compiled := b.patterns.map (compile? b.options)
    let taken := takenCount accepts (before ++ behind) compiled
    let taken' := takenCount accepts (before ++ line :: behind) compiled
    let value := points n present taken
    let value' := points n (present + 1) taken'
    (score b separator answer = ⟨value.toNat, n⟩ ∧ score b separator longer = ⟨value'.toNat, n⟩) ∧
      (taken' = taken ∨ taken' = taken + 1) ∧ (value' - value).natAbs ≤ 1 ∧
      (present < n → value ≤ value') ∧ (n ≤ present → value' ≤ value) ∧
      ((∀ p ∈ b.patterns, accepts (compile? b.options p) line = false) →
        taken' = taken ∧ (present < n → value' = value) ∧
          (n ≤ present → value' = max 0 (value - 1))) := by
  intro n present compiled taken taken' value value'
  have hpresent : (before ++ line :: behind).length = present + 1 := by
    show (before ++ line :: behind).length = (before ++ behind).length + 1
    simp only [List.length_append, List.length_cons]
    omega
  have htaken : taken' = taken ∨ taken' = taken + 1 := takenCount_insert accepts before behind line _
  obtain ⟨hnear, hmissing, henough⟩ := points_insert n present htaken
  refine ⟨⟨?_, ?_⟩, htaken, hnear, hmissing, henough, ?_⟩
  -- the two scores
  · rw [score_of_anyOrder hany hpatterns, hanswer]
  · rw [score_of_anyOrder hany hpatterns, hlonger, hpresent]
  -- a line that no pattern accepts
  · intro hline
    have hrejected : ∀ r ∈ compiled, accepts r line = false := by
      intro r hr
      obtain ⟨p, hp, rfl⟩ := List.mem_map.1 hr
      exact hline p hp
    have hsame : taken' = taken := takenCount_insert_of_rejected hrejected before behind
    obtain ⟨hkept, hcharged⟩ := points_insert_of_rejected n present taken
    show taken' = taken ∧ (present < n → points n (present + 1) taken' = value) ∧
      (n ≤ present → points n (present + 1) taken' = max 0 (value - 1))
    rw [hsame]
    exact ⟨rfl, hkept, hcharged⟩

/-- The first of two patterns takes the line that is put in front, and the second one the line that
the first one would have taken. -/
theorem score_anyOrder_insert_redirects :
    let b : Block := ⟨100, ["a|b+".toList, "a".toList], { anyOrder := true }⟩
    score b ['\n'] "a\nx".toList = ⟨1, 2⟩ ∧ score b ['\n'] "b\na\nx".toList = ⟨1, 2⟩ ∧
      takenCount accepts ["b".toList, "a".toList, "x".toList] (b.patterns.map (compile? b.options)) =
        takenCount accepts ["a".toList, "x".toList] (b.patterns.map (compile? b.options)) + 1 := by
  intro b
  have hscores := score_anyOrder_insert b ['\n'] "a\nx".toList "b\na\nx".toList [] ["a".toList, "x".toList]
    "b".toList rfl (by decide) (by decide +kernel) (by decide +kernel)
  obtain ⟨⟨hscore, hscore'⟩, htaken, -⟩ := hscores
  refine ⟨hscore.trans (by decide +kernel), hscore'.trans (by decide +kernel), ?_⟩
  refine htaken.resolve_left ?_
  decide +kernel

end AnswerKey.Scoring
