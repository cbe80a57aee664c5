import AnswerKey.Proofs.Scoring.Fraction
import AnswerKey.Proofs.Scoring.Points
import Mathlib.Data.Finset.Card
import Mathlib.Data.Fintype.EquivFin
import Mathlib.Order.Lattice.Nat

/-!
# Assignments as matchings

An assignment is a matching of patterns with lines to which no pair can be added.  It has at least
half as many pairs as any other matching.
-/

namespace AnswerKey.Scoring

section

variable {α β : Type} {accepts : β → α → Bool} {lines : List α} {patterns : List β}
  {pairs : Finset (Nat × Nat)}

/-- Some pairs of the positions of a pattern and of a line that it accepts, where no pattern and no
line belongs to two pairs. -/
structure IsMatching (accepts : β → α → Bool) (lines : List α) (patterns : List β)
    (pairs : Finset (Nat × Nat)) : Prop where
  accepted : ∀ x ∈ pairs, ∃ p, patterns[x.1]? = some p ∧ AcceptsAt accepts lines p x.2
  pattern_inj : ∀ x ∈ pairs, ∀ y ∈ pairs, x.1 = y.1 → x = y
  line_inj : ∀ x ∈ pairs, ∀ y ∈ pairs, x.2 = y.2 → x = y

/-- The pairs of an assignment. -/
def takenPairs (accepts : β → α → Bool) (lines : List α) (patterns : List β) :
    Finset (Nat × Nat) :=
  (takenLines accepts lines patterns).toFinset.image fun i =>
    ((assignment accepts lines patterns).idxOf (some i), i)

theorem mem_takenPairs {k i : Nat} : (k, i) ∈ takenPairs accepts lines patterns ↔
    (assignment accepts lines patterns)[k]? = some (some i) := by
  unfold takenPairs
  rw [Finset.mem_image]
  constructor
  · intro h
    obtain ⟨j, hj, he⟩ := h
    obtain ⟨rfl, rfl⟩ := Prod.mk.inj he
    obtain ⟨l, hl⟩ := mem_takenLines.1 (List.mem_toFinset.1 hj)
    exact List.getElem?_idxOf (List.mem_of_getElem? hl)
  · intro h
    have hfirst := List.getElem?_idxOf (List.mem_of_getElem? h)
    refine ⟨i, List.mem_toFinset.2 (mem_takenLines.2 ⟨k, h⟩), Prod.ext ?_ rfl⟩
    exact assignment_injective hfirst h

theorem card_takenPairs :
    (takenPairs accepts lines patterns).card = takenCount accepts lines patterns := by
  have hinj : Function.Injective fun i =>
      ((assignment accepts lines patterns).idxOf (some i), i) := fun i j h => (Prod.mk.inj h).2
  rw [takenPairs, Finset.card_image_of_injective _ hinj,
    List.toFinset_card_of_nodup takenLines_nodup]
  rfl

theorem isMatching_takenPairs :
    IsMatching accepts lines patterns (takenPairs accepts lines patterns) where
  accepted x hx := by
    obtain ⟨p, hp, htakes⟩ := takes_of_getElem? (mem_takenPairs.1 hx)
    exact ⟨p, hp, htakes.accepted x.2 rfl⟩
  pattern_inj x hx y hy he := by
    have hx := mem_takenPairs.1 hx
    have hy := mem_takenPairs.1 hy
    rw [he, hy] at hx
    exact Prod.ext he (Option.some.inj (Option.some.inj hx)).symm
  line_inj x hx y hy he := by
    have hx := mem_takenPairs.1 hx
    have hy := mem_takenPairs.1 hy
    rw [he] at hx
    exact Prod.ext (assignment_injective hx hy) he

/-- Of each pair of a matching the pattern has taken a line or the line has been taken. -/
theorem IsMatching.touches (h : IsMatching accepts lines patterns pairs) {x : Nat × Nat}
    (hx : x ∈ pairs) :
    x.1 ∈ (takenPairs accepts lines patterns).image Prod.fst ∨
      x.2 ∈ (takenPairs accepts lines patterns).image Prod.snd := by
  obtain ⟨p, hp, haccepts⟩ := h.accepted x hx
  obtain ⟨t, ht, htakes⟩ := assignment_takes accepts lines hp
  rcases t with _ | i
  -- the pattern took nothing, so the line was not left
  · obtain ⟨l, -, hl⟩ := htakes.left rfl x.2 haccepts
    exact .inr (Finset.mem_image.2 ⟨(l, x.2), mem_takenPairs.2 hl, rfl⟩)
  · exact .inl (Finset.mem_image.2 ⟨(x.1, i), mem_takenPairs.2 ht, rfl⟩)

/-- Where `f` tells the pairs apart, no more of them can share their value with some others than
there are of these. -/
theorem card_filter_mem_image_le {f : Nat × Nat → Nat}
    (hf : ∀ x ∈ pairs, ∀ y ∈ pairs, f x = f y → x = y) (others : Finset (Nat × Nat)) :
    (pairs.filter (f · ∈ others.image f)).card ≤ others.card := by
  have hmaps : ∀ x ∈ pairs.filter (f · ∈ others.image f), f x ∈ others.image f :=
    fun x hx => (Finset.mem_filter.1 hx).2
  have hle : (pairs.filter (f · ∈ others.image f)).card ≤ (others.image f).card := by
    refine Finset.card_le_card_of_injOn f hmaps fun x hx y hy he => ?_
    exact hf x (Finset.mem_filter.1 hx).1 y (Finset.mem_filter.1 hy).1 he
  exact hle.trans Finset.card_image_le

/-- No matching has more than twice as many pairs as an assignment: each of its pairs shares its
pattern or its line with one of those, and no two share the same one. -/
theorem IsMatching.card_le (h : IsMatching accepts lines patterns pairs) :
    pairs.card ≤ 2 * takenCount accepts lines patterns := by
  have hcover : pairs ⊆
      pairs.filter (·.1 ∈ (takenPairs accepts lines patterns).image Prod.fst) ∪
        pairs.filter (·.2 ∈ (takenPairs accepts lines patterns).image Prod.snd) := by
    intro x hx
    rw [Finset.mem_union, Finset.mem_filter, Finset.mem_filter]
    exact (h.touches hx).imp (fun hk => ⟨hx, hk⟩) fun hi => ⟨hx, hi⟩
  have hpatterns := card_filter_mem_image_le h.pattern_inj (takenPairs accepts lines patterns)
  have hlines := card_filter_mem_image_le h.line_inj (takenPairs accepts lines patterns)
  rw [card_takenPairs] at hpatterns hlines
  have hle := (Finset.card_le_card hcover).trans (Finset.card_union_le _ _)
  omega

/-- There is a greatest matching, and an assignment has at least half as many pairs. -/
theorem exists_isGreatest_matching (accepts : β → α → Bool) (lines : List α) (patterns : List β) :
    ∃ most, IsGreatest {n | ∃ pairs, IsMatching accepts lines patterns pairs ∧ pairs.card = n} most ∧
      takenCount accepts lines patterns ≤ most ∧
      most ≤ 2 * takenCount accepts lines patterns := by
  let sizes := {n | ∃ pairs, IsMatching accepts lines patterns pairs ∧ pairs.card = n}
  have htaken : takenCount accepts lines patterns ∈ sizes :=
    ⟨_, isMatching_takenPairs, card_takenPairs⟩
  have hbound : ∀ n ∈ sizes, n ≤ 2 * takenCount accepts lines patterns := by
    intro n hn
    obtain ⟨pairs, hpairs, rfl⟩ := hn
    exact hpairs.card_le
  have hbounded : BddAbove sizes := ⟨_, hbound⟩
  have hmem : sSup sizes ∈ sizes := Nat.sSup_mem ⟨_, htaken⟩ hbounded
  refine ⟨sSup sizes, ⟨hmem, fun n hn => le_csSup hbounded hn⟩, ?_, hbound _ hmem⟩
  exact le_csSup hbounded htaken

/-! ## Full scores -/

/-- Where there are as many lines as patterns and each pattern takes one, every line is the one of
one pattern. -/
theorem exists_equiv_of_all_taken (hlength : lines.length = patterns.length)
    (hall : ∀ t ∈ assignment accepts lines patterns, t ≠ none) :
    ∃ e : Fin patterns.length ≃ Fin lines.length,
      ∀ k, (assignment accepts lines patterns)[k]? = some (some (e k).1) ∧
        accepts patterns[k] lines[e k] = true := by
  have htaken : ∀ k : Fin patterns.length, ∃ i : Fin lines.length,
      (assignment accepts lines patterns)[k]? = some (some i.1) ∧
        accepts patterns[k] lines[i] = true := by
    intro k
    obtain ⟨t, ht, htakes⟩ := assignment_takes accepts lines (List.getElem?_eq_getElem k.2)
    rcases t with _ | i
    · exact (hall none (List.mem_of_getElem? ht) rfl).elim
    · obtain ⟨line, hline, haccepts⟩ := htakes.accepted i rfl
      obtain ⟨hi, rfl⟩ := List.getElem?_eq_some_iff.1 hline
      exact ⟨⟨i, hi⟩, ht, haccepts⟩
  choose f hf using htaken
  -- a map that takes no line twice reaches all of them, since there are no more than patterns
  have hinj : Function.Injective f := by
    intro k l he
    exact Fin.ext (assignment_injective (hf k).1 (he ▸ (hf l).1))
  have hbij : Function.Bijective f :=
    (Fintype.bijective_iff_injective_and_card f).2 ⟨hinj, by simp [hlength]⟩
  exact ⟨Equiv.ofBijective f hbij, hf⟩

end

/-- A full score is only given where patterns and lines belong together one by one. -/
theorem exists_equiv_of_full_score {b : Block} (hany : b.options.anyOrder = true)
    {separator answer : Text}
    (hfull : (score b separator answer).awarded = (score b separator answer).possible) :
    ∃ e : Fin b.patterns.length ≃ Fin (answerLines b.options separator answer).length,
      ∀ k, accepts (compile? b.options b.patterns[k])
        (answerLines b.options separator answer)[e k] = true := by
  by_cases hpatterns : b.patterns = []
  -- without patterns the score is not full
  · have hscore : score b separator answer = ⟨0, 1⟩ := by
      rw [score, if_pos hany, scoreAnyOrder, if_pos hpatterns]
      rfl
    rw [hscore] at hfull
    cases hfull
  · have hcompiled : (b.patterns.map (compile? b.options)).length = b.patterns.length :=
      List.length_map _
    obtain ⟨hlength, hall⟩ := (full_score_anyOrder_iff hany hpatterns separator answer).1 hfull
    rw [← hcompiled] at hlength
    obtain ⟨e, he⟩ := exists_equiv_of_all_taken hlength hall
    refine ⟨(finCongr hcompiled.symm).trans e, fun k => ?_⟩
    have hk := (he (finCongr hcompiled.symm k)).2
    simpa using hk

/-- A score of 1 is full as long as the patterns can be told apart by counting in binary64. -/
theorem full_score_of_one_le_fraction {b : Block} (hany : b.options.anyOrder = true)
    (hfew : b.patterns.length < 2 ^ 53) {separator answer : Text}
    (hone : 1.0 ≤ (score b separator answer).fraction) :
    (score b separator answer).awarded = (score b separator answer).possible := by
  have hlt : (score b separator answer).possible < 2 ^ 53 := by
    by_cases hpatterns : b.patterns = []
    · rw [score, if_pos hany, scoreAnyOrder, if_pos hpatterns]
      decide
    · rwa [possible_anyOrder hpatterns hany]
  exact (Score.one_le_fraction_iff (awarded_le b separator answer)
    (possible_pos b separator answer) hlt).1 hone

/-- The lines taken in any order.  Each pattern takes the first line that it accepts among those
that are left, and none only if none of these is left; no line is taken twice.  A full score means
that patterns and lines belong together one by one; and no way to match patterns with lines has more
than twice as many pairs. -/
theorem assignment_sound_and_maximal (o : Options) (patterns lines : List Text) :
    let compiled := patterns.map (compile? o)
    let ts := assignment accepts lines compiled
    ts.length = patterns.length ∧
      (∀ k i : Nat, ts[k]? = some (some i) → ∃ p line, patterns[k]? = some p ∧
        lines[i]? = some line ∧ accepts (compile? o p) line = true ∧ ¬ TakenBefore ts k i ∧
        ∀ j < i, ∀ other, lines[j]? = some other → accepts (compile? o p) other = true →
          TakenBefore ts k j) ∧
      (∀ k l i : Nat, ts[k]? = some (some i) → ts[l]? = some (some i) → k = l) ∧
      (∀ (k : Nat) p, patterns[k]? = some p → ts[k]? = some none → ∀ (j : Nat) line,
        lines[j]? = some line → accepts (compile? o p) line = true → TakenBefore ts k j) ∧
      (∀ (b : Block) (separator answer : Text), b.options = o → b.options.anyOrder = true →
        b.patterns = patterns → answerLines o separator answer = lines →
        (score b separator answer).awarded = (score b separator answer).possible ∨
          patterns.length < 2 ^ 53 ∧ 1.0 ≤ (score b separator answer).fraction →
        ∃ e : Fin patterns.length ≃ Fin lines.length,
          ∀ k, accepts (compile? o patterns[k]) lines[e k] = true) ∧
      ∃ most, IsGreatest {n | ∃ pairs, IsMatching accepts lines compiled pairs ∧ pairs.card = n}
          most ∧ takenCount accepts lines compiled ≤ most ∧
        most ≤ 2 * takenCount accepts lines compiled := by
  intro compiled ts
  refine ⟨?_, ?_, ?_, ?_, ?_, exists_isGreatest_matching accepts lines compiled⟩
  · exact (length_assignment accepts lines compiled).trans (List.length_map _)
  -- what a pattern has taken
  · intro k i hi
    obtain ⟨r, hr, htakes⟩ := takes_of_getElem? hi
    rw [List.getElem?_map] at hr
    obtain ⟨p, hp, rfl⟩ := Option.map_eq_some_iff.1 hr
    obtain ⟨line, hline, haccepts⟩ := htakes.accepted i rfl
    refine ⟨p, line, hp, hline, haccepts, htakes.free i rfl, fun j hj other hother hmatch => ?_⟩
    exact htakes.first i rfl j hj ⟨other, hother, hmatch⟩
  · intro k l i hk hl
    exact assignment_injective hk hl
  -- what a pattern that took nothing would accept
  · intro k p hp hnone j line hline haccepts
    have hk : compiled[k]? = some (compile? o p) := by rw [List.getElem?_map, hp, Option.map_some]
    obtain ⟨t, ht, htakes⟩ := assignment_takes accepts lines hk
    cases ht.symm.trans hnone
    exact htakes.left rfl j ⟨line, hline, haccepts⟩
  · intro b separator answer ho hany hb hlines hfull
    subst ho hb hlines
    apply exists_equiv_of_full_score hany
    rcases hfull with hfull | ⟨hfew, hone⟩
    · exact hfull
    · exact full_score_of_one_le_fraction hany hfew hone

/-- Two patterns, the first of which accepts what the second one needs. -/
def overlapping : List Text := ["a|b+".toList, "a".toList]

/-- The greatest matching can have twice as many pairs as there are lines taken. -/
theorem greatest_matching_is_double :
    takenCount accepts ["a".toList, "b".toList] (overlapping.map (compile? {})) = 1 ∧
      IsGreatest {n | ∃ pairs, IsMatching accepts ["a".toList, "b".toList]
        (overlapping.map (compile? {})) pairs ∧ pairs.card = n} 2 := by
  obtain ⟨-, -, -, -, -, most, hmost, -, hle⟩ := assignment_sound_and_maximal {} overlapping
    ["a".toList, "b".toList]
  have htaken : takenCount accepts ["a".toList, "b".toList] (overlapping.map (compile? {})) = 1 := by
    decide +kernel
  -- each pattern can have a line if the first one takes the second line
  have htwo : 2 ∈ {n | ∃ pairs, IsMatching accepts ["a".toList, "b".toList]
      (overlapping.map (compile? {})) pairs ∧ pairs.card = n} := by
    refine ⟨{(0, 1), (1, 0)}, ⟨?_, by decide, by decide⟩, rfl⟩
    intro x hx
    rcases Finset.mem_insert.1 hx with rfl | hx
    · exact ⟨_, rfl, "b".toList, rfl, by decide +kernel⟩
    · obtain rfl := Finset.mem_singleton.1 hx
      exact ⟨_, rfl, "a".toList, rfl, by decide +kernel⟩
  have hmax := hmost.2 htwo
  obtain rfl : most = 2 := by omega
  exact ⟨htaken, hmost⟩

end AnswerKey.Scoring
