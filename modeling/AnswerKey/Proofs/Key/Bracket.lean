import AnswerKey.Key.Bracket
import AnswerKey.Proofs.Text.Delimiter
import AnswerKey.Proofs.Text.Run
import Mathlib.Data.List.TakeWhile

/-!
# Brackets in patterns

Patterns may hold brackets of their own.  A pattern in which no block ends can be followed by closing
brackets, and no block ends any earlier; and likewise for boundaries.  This is because
closing brackets only stand at the start of what ends a block or divides patterns.
-/

namespace AnswerKey.Bracket

open Text

variable {t rest letters gap : Text}

/-! ## What is read -/

/-- The gap behind closing brackets ends with the first character that is none of its own. -/
theorem afterGap?_append (hgap : ∀ c ∈ gap, isGap c = true) {c : Char} (hc : isGap c = false) :
    afterGap? (']' :: ']' :: (gap ++ c :: t)) = some (c :: t) := by
  show some ((gap ++ c :: t).dropWhile isGap) = _
  rw [List.dropWhile_append_of_pos hgap, List.dropWhile_cons_of_neg (by simp [hc])]

/-- Brackets and a gap are taken off the front of a text. -/
theorem afterGap?_eq_some (h : afterGap? t = some rest) :
    ∃ gap, (∀ c ∈ gap, isGap c = true) ∧ t = ']' :: ']' :: (gap ++ rest) := by
  unfold afterGap? at h
  split at h
  · next s =>
    cases h
    refine ⟨s.takeWhile isGap, fun c hc => List.mem_takeWhile_imp hc, ?_⟩
    rw [List.takeWhile_append_dropWhile]
  · cases h

/-- The end of a block is read where it is written. -/
theorem readClosing?_append (hgap : ∀ c ∈ gap, isGap c = true)
    (hletters : ∀ c ∈ letters, c.isAlpha = true) (rest : Text) :
    readClosing? (']' :: ']' :: (gap ++ '/' :: (letters ++ '/' :: rest))) = some (letters, rest) := by
  unfold readClosing?
  rw [afterGap?_append hgap (by decide)]
  simp only
  rw [List.dropWhile_append_of_pos hletters, List.takeWhile_append_of_pos hletters,
    List.dropWhile_cons_of_neg (by simp), List.takeWhile_cons_of_neg (by simp), List.append_nil]
  rfl

/-- What is read as the end of a block is written as one. -/
theorem readClosing?_eq_some (h : readClosing? t = some (letters, rest)) :
    ∃ gap, (∀ c ∈ gap, isGap c = true) ∧ (∀ c ∈ letters, c.isAlpha = true) ∧
      t = ']' :: ']' :: (gap ++ '/' :: (letters ++ '/' :: rest)) := by
  unfold readClosing? at h
  split at h
  · next s hgap =>
    split at h
    · next rest' hrest =>
      cases h
      obtain ⟨gap, hblank, rfl⟩ := afterGap?_eq_some hgap
      refine ⟨gap, hblank, fun c hc => List.mem_takeWhile_imp hc, ?_⟩
      rw [← hrest, List.takeWhile_append_dropWhile]
    · cases h
  · cases h

theorem readBoundary?_append (hgap : ∀ c ∈ gap, isGap c = true) (rest : Text) :
    readBoundary? (']' :: ']' :: (gap ++ '[' :: '[' :: rest)) = some ((), rest) := by
  unfold readBoundary?
  rw [afterGap?_append hgap (by decide)]
  rfl

/-- What is read as a boundary of two patterns is written as one. -/
theorem readBoundary?_eq_some (h : readBoundary? t = some ((), rest)) :
    ∃ gap, (∀ c ∈ gap, isGap c = true) ∧ t = ']' :: ']' :: (gap ++ '[' :: '[' :: rest) := by
  unfold readBoundary? at h
  split at h
  · next s hgap =>
    cases h
    exact afterGap?_eq_some hgap
  · cases h

/-! ## Brackets that are closed at the start only -/

/-- A delimiter that begins with two closing brackets and goes on with something that has none. -/
def ClosesFirst {α : Type} (d : Delimiter α) : Prop :=
  ∀ {t a rest}, d.read? t = some (a, rest) →
    ∃ tail, tail ≠ [] ∧ ']' ∉ tail ∧ t = ']' :: ']' :: (tail ++ rest) ∧
      ∀ more, d.read? (']' :: ']' :: (tail ++ more)) = some (a, more)

theorem not_mem_of_isGap (hgap : ∀ c ∈ gap, isGap c = true) : ']' ∉ gap :=
  fun h => absurd (hgap ']' h) (by decide)

/-- The end of a block begins with closing brackets, which occur nowhere else in it. -/
theorem closesFirst_closing : ClosesFirst closing := by
  intro t letters rest h
  obtain ⟨gap, hgap, hletters, rfl⟩ := readClosing?_eq_some h
  have hmem : ']' ∉ letters := fun h => absurd (hletters ']' h) (by decide)
  refine ⟨gap ++ '/' :: (letters ++ ['/']), by simp, ?_, by simp, fun more => ?_⟩
  · simp [not_mem_of_isGap hgap, hmem]
  · show readClosing? _ = _
    simpa using readClosing?_append hgap hletters more

theorem closesFirst_boundary : ClosesFirst boundary := by
  intro t _ rest h
  obtain ⟨gap, hgap, rfl⟩ := readBoundary?_eq_some h
  refine ⟨gap ++ ['[', '['], by simp, ?_, by simp, fun more => ?_⟩
  · simp [not_mem_of_isGap hgap]
  · show readBoundary? _ = _
    simpa using readBoundary?_append hgap more

section

variable {α : Type} {d : Delimiter α} {p s : Text} {c : Char}

theorem ClosesFirst.read?_cons (hd : ClosesFirst d) (hc : c ≠ ']') : d.read? (c :: t) = none := by
  cases hread : d.read? (c :: t) with
  | none => rfl
  | some found =>
    obtain ⟨tail, -, -, he, -⟩ := hd hread
    exact absurd (List.cons.inj he).1 hc

/-- One closing bracket is not enough. -/
theorem ClosesFirst.read?_cons_cons (hd : ClosesFirst d) (hc : c ≠ ']') :
    d.read? (']' :: c :: t) = none := by
  cases hread : d.read? (']' :: c :: t) with
  | none => rfl
  | some found =>
    obtain ⟨tail, -, -, he, -⟩ := hd hread
    exact absurd (List.cons.inj (List.cons.inj he).2).1 hc

/-- No occurrence begins in a text without closing brackets. -/
theorem ClosesFirst.find?_append_of_not_mem (hd : ClosesFirst d) (hs : ']' ∉ s) :
    d.find? (s ++ t) = (d.find? t).map (Delimiter.behind s) := by
  apply Delimiter.find?_append
  intro u v he hv
  obtain ⟨c, v, rfl⟩ := List.exists_cons_of_ne_nil hv
  apply hd.read?_cons
  intro hc
  subst hc
  exact hs (by simp [he])

/-- An occurrence that begins in a text ends in it, or else the closing brackets behind the text
would stand in its middle. -/
theorem ClosesFirst.read?_append (hd : ClosesFirst d) (hs : s ≠ []) (hnone : d.read? s = none) :
    d.read? (s ++ ']' :: ']' :: t) = none := by
  cases hread : d.read? (s ++ ']' :: ']' :: t) with
  | none => rfl
  | some found =>
    obtain ⟨tail, htail, hmem, he, hmore⟩ := hd hread
    match s, hs with
    | [c], _ =>
      -- the text is one closing bracket, and the second one behind it would belong to the tail
      obtain ⟨b, tail, rfl⟩ := List.exists_cons_of_ne_nil htail
      simp only [List.cons_append, List.nil_append, List.cons.injEq] at he
      exact (hmem (he.2.2.1 ▸ List.mem_cons_self)).elim
    | c :: b :: s, _ =>
      simp only [List.cons_append, List.cons.injEq] at he
      obtain ⟨rfl, rfl, he⟩ := he
      rcases List.append_eq_append_iff.1 he with ⟨u, rfl, hu⟩ | ⟨u, rfl, hu⟩
      · rcases u with _ | ⟨b, u⟩
        · have hfound := hmore []
          rw [List.append_nil, List.append_nil, hnone] at hfound
          cases hfound
        · obtain rfl := (List.cons.inj hu).1
          exact (hmem (by simp)).elim
      · rw [hmore u] at hnone
        cases hnone

/-- The search goes on behind a pattern in which nothing is found. -/
theorem ClosesFirst.find?_append (hd : ClosesFirst d) (hp : d.find? p = none) :
    d.find? (p ++ ']' :: ']' :: t) = (d.find? (']' :: ']' :: t)).map (Delimiter.behind p) := by
  apply Delimiter.find?_append
  intro u v he hv
  exact hd.read?_append hv (Delimiter.find?_eq_none_iff.1 hp u v he hv)

end

/-! ## Patterns without ends and boundaries -/

/-- A block ends somewhere in a text. -/
def HasClosing (t : Text) : Prop :=
  ∃ before gap letters rest, (∀ c ∈ gap, isGap c = true) ∧ (∀ c ∈ letters, c.isAlpha = true) ∧
    t = before ++ ']' :: ']' :: (gap ++ '/' :: (letters ++ '/' :: rest))

/-- Two patterns are divided somewhere in a text. -/
def HasBoundary (t : Text) : Prop :=
  ∃ before gap rest, (∀ c ∈ gap, isGap c = true) ∧
    t = before ++ ']' :: ']' :: (gap ++ '[' :: '[' :: rest)

theorem find?_closing_eq_none_iff : closing.find? t = none ↔ ¬ HasClosing t := by
  rw [Delimiter.find?_eq_none_iff]
  constructor
  · intro h hhas
    obtain ⟨before, gap, letters, rest, hgap, hletters, rfl⟩ := hhas
    have hread := readClosing?_append hgap hletters rest
    have hnone := h before _ rfl (List.cons_ne_nil _ _)
    cases hread.symm.trans hnone
  · intro h u v he _
    cases hread : closing.read? v with
    | none => rfl
    | some found =>
      obtain ⟨gap, hgap, hletters, hv⟩ := readClosing?_eq_some hread
      exact (h ⟨u, gap, _, _, hgap, hletters, hv ▸ he⟩).elim

theorem find?_boundary_eq_none_iff : boundary.find? t = none ↔ ¬ HasBoundary t := by
  rw [Delimiter.find?_eq_none_iff]
  constructor
  · intro h hhas
    obtain ⟨before, gap, rest, hgap, rfl⟩ := hhas
    have hread := readBoundary?_append hgap rest
    have hnone := h before _ rfl (List.cons_ne_nil _ _)
    cases hread.symm.trans hnone
  · intro h u v he _
    cases hread : boundary.read? v with
    | none => rfl
    | some found =>
      obtain ⟨gap, hgap, hv⟩ := readBoundary?_eq_some hread
      exact (h ⟨u, gap, _, hgap, hv ▸ he⟩).elim

instance (t : Text) : Decidable (HasClosing t) :=
  decidable_of_iff (¬ closing.find? t = none) (by rw [find?_closing_eq_none_iff, not_not])

instance (t : Text) : Decidable (HasBoundary t) :=
  decidable_of_iff (¬ boundary.find? t = none) (by rw [find?_boundary_eq_none_iff, not_not])

/-- A block ends at the first ending behind a pattern that has none. -/
theorem find?_closing_append {p : Text} (hp : ¬ HasClosing p) (hgap : ∀ c ∈ gap, isGap c = true)
    (hletters : ∀ c ∈ letters, c.isAlpha = true) :
    closing.find? (p ++ ']' :: ']' :: (gap ++ '/' :: (letters ++ '/' :: rest))) =
      some (p, letters, rest) := by
  rw [closesFirst_closing.find?_append (find?_closing_eq_none_iff.2 hp),
    Delimiter.find?_cons_of_some (readClosing?_append hgap hletters rest), Option.map_some]
  simp [Delimiter.behind]

/-- No block ends between a pattern that has no ending and the brackets of the next one. -/
theorem find?_closing_next {p : Text} (hp : ¬ HasClosing p) (hgap : ∀ c ∈ gap, isGap c = true) :
    closing.find? (p ++ ']' :: ']' :: (gap ++ '[' :: '[' :: t)) =
      (closing.find? t).map (Delimiter.behind (p ++ ']' :: ']' :: (gap ++ ['[', '[']))) := by
  have hmem := not_mem_of_isGap hgap
  -- an ending could begin at the first bracket, at the second one or in the gap
  have hclosing : closing.read? (']' :: ']' :: (gap ++ '[' :: '[' :: t)) = none := by
    show readClosing? _ = none
    unfold readClosing?
    rw [afterGap?_append hgap (by decide)]
    rfl
  have hbracket : closing.read? (']' :: (gap ++ '[' :: '[' :: t)) = none := by
    rcases gap with _ | ⟨c, gap⟩
    · exact closesFirst_closing.read?_cons_cons (by decide)
    · exact closesFirst_closing.read?_cons_cons fun hc => hmem (hc ▸ List.mem_cons_self)
  have hrest : closing.find? (gap ++ '[' :: '[' :: t) =
      (closing.find? t).map (Delimiter.behind (gap ++ ['[', '['])) := by
    rw [← closesFirst_closing.find?_append_of_not_mem (by simp [hmem]), List.append_assoc]
    rfl
  rw [closesFirst_closing.find?_append (find?_closing_eq_none_iff.2 hp),
    Delimiter.find?_cons_of_none hclosing, Delimiter.find?_cons_of_none hbracket, hrest]
  simp only [Option.map_map]
  congr 1
  funext found
  simp [Function.comp, Delimiter.behind_behind]

/-- Two patterns are divided behind the first one, if it has no boundary of its own. -/
theorem find?_boundary_append {p : Text} (hp : ¬ HasBoundary p) (hgap : ∀ c ∈ gap, isGap c = true) :
    boundary.find? (p ++ ']' :: ']' :: (gap ++ '[' :: '[' :: rest)) = some (p, (), rest) := by
  rw [closesFirst_boundary.find?_append (find?_boundary_eq_none_iff.2 hp),
    Delimiter.find?_cons_of_some (readBoundary?_append hgap rest), Option.map_some]
  simp [Delimiter.behind]

end AnswerKey.Bracket
