import AnswerKey.Proofs.Scoring.Matching
import AnswerKey.Proofs.Scoring.Remaining

/-!
# Patterns that do not overlap in part

In general it matters in which order patterns and lines come: a pattern may take the only line that
a later one accepts.  This cannot happen where any two patterns accept the same lines or have none in
common.  Then lines that one pattern accepts are alike for all patterns, so it makes no difference
which of them is taken, and a pattern that takes nothing has lost its lines to patterns like itself.
-/

namespace AnswerKey.Scoring

section

variable {α β γ : Type} {accepts : β → α → Bool} {lines l m : List α} {patterns ps qs : List β}
  {pairs : Finset (Nat × Nat)} {p q : β}

/-- Any two patterns accept the same ones among some lines, or have none of them in common. -/
def Separable (accepts : β → α → Bool) (lines : List α) (patterns : List β) : Prop :=
  ∀ p ∈ patterns, ∀ q ∈ patterns,
    (∀ line ∈ lines, accepts p line = accepts q line) ∨
      ∀ line ∈ lines, ¬ (accepts p line = true ∧ accepts q line = true)

namespace Separable

/-- Patterns that have a line in common accept the same lines. -/
theorem agree (h : Separable accepts lines patterns) (hp : p ∈ patterns) (hq : q ∈ patterns)
    {x : α} (hx : x ∈ lines) (hpx : accepts p x = true) (hqx : accepts q x = true) :
    ∀ line ∈ lines, accepts p line = accepts q line :=
  (h p hp q hq).resolve_right fun hapart => hapart x hx ⟨hpx, hqx⟩

/-- Lines that one pattern accepts are alike for every pattern. -/
theorem alike (h : Separable accepts lines patterns) (hp : p ∈ patterns) (hq : q ∈ patterns)
    {x y : α} (hx : x ∈ lines) (hy : y ∈ lines) (hpx : accepts p x = true)
    (hpy : accepts p y = true) : accepts q x = accepts q y := by
  rcases h p hp q hq with hsame | hapart
  · rw [← hsame x hx, ← hsame y hy, hpx, hpy]
  · have hqx : accepts q x = false := by simpa [hpx] using hapart x hx
    have hqy : accepts q y = false := by simpa [hpy] using hapart y hy
    rw [hqx, hqy]

theorem mono (h : Separable accepts lines patterns) (hl : l ⊆ lines) (hps : ps ⊆ patterns) :
    Separable accepts l ps := by
  intro p hp q hq
  refine (h p (hps hp) q (hps hq)).imp (fun hsame line hline => ?_) fun hapart line hline => ?_
  · exact hsame line (hl hline)
  · exact hapart line (hl hline)

end Separable

/-! ## The order of the patterns -/

theorem eraseP_congr {f g : α → Bool} (h : ∀ x ∈ l, f x = g x) : l.eraseP f = l.eraseP g := by
  induction l with
  | nil => rfl
  | cons x l ih =>
    have hx : f x = g x := h x List.mem_cons_self
    have hl : l.eraseP f = l.eraseP g := ih fun y hy => h y (List.mem_cons_of_mem x hy)
    rw [List.eraseP_cons, List.eraseP_cons, hx, hl]

/-- Two patterns can take their lines in either order: they do not compete, or they are alike. -/
theorem Separable.eraseP_comm (h : Separable accepts lines patterns) (hp : p ∈ patterns)
    (hq : q ∈ patterns) :
    (lines.eraseP (accepts p)).eraseP (accepts q) = (lines.eraseP (accepts q)).eraseP (accepts p) := by
  rcases h p hp q hq with hsame | hapart
  · have hfirst : lines.eraseP (accepts p) = lines.eraseP (accepts q) := eraseP_congr hsame
    rw [hfirst]
    refine eraseP_congr fun x hx => ?_
    exact (hsame x (List.eraseP_subset hx)).symm
  · refine List.eraseP_comm fun x hx => ?_
    exact not_and_or.1 (hapart x hx)

/-- The lines that are left do not depend on the order of the patterns. -/
theorem leftLines_perm_patterns (hperm : ps.Perm qs) (h : Separable accepts lines ps) :
    leftLines accepts lines ps = leftLines accepts lines qs := by
  induction hperm generalizing lines with
  | nil => rfl
  | cons p hperm ih => exact ih (h.mono List.eraseP_subset (List.subset_cons_self p _))
  | swap p q ps =>
    have hswap := h.eraseP_comm (p := q) (q := p) (by simp) (by simp)
    rw [leftLines_cons, leftLines_cons, hswap, ← leftLines_cons, ← leftLines_cons]
  | trans hfirst _ ih ih' =>
    exact (ih h).trans (ih' (h.mono (List.Subset.refl _) hfirst.symm.subset))

/-! ## The order of the lines -/

/-- If two lists hold elements of the same kinds, and all that `f` asks for are of one kind, they
still do when each has lost the first one that `f` asks for. -/
theorem eraseP_map_perm {kind : α → γ} {f : α → Bool} (hperm : (l.map kind).Perm (m.map kind))
    (hkind : ∀ x y, kind x = kind y → f x = f y)
    (hone : ∀ x ∈ l, ∀ y ∈ m, f x = true → f y = true → kind x = kind y) :
    ((l.eraseP f).map kind).Perm ((m.eraseP f).map kind) := by
  have hasked : (∃ x ∈ l, f x = true) ↔ ∃ y ∈ m, f y = true := by
    constructor
    · intro h
      obtain ⟨x, hx, hfx⟩ := h
      obtain ⟨y, hy, he⟩ := List.mem_map.1 (hperm.subset (List.mem_map_of_mem hx))
      exact ⟨y, hy, (hkind y x he).trans hfx⟩
    · intro h
      obtain ⟨y, hy, hfy⟩ := h
      obtain ⟨x, hx, he⟩ := List.mem_map.1 (hperm.symm.subset (List.mem_map_of_mem hy))
      exact ⟨x, hx, (hkind x y he).trans hfy⟩
  by_cases h : ∃ x ∈ l, f x = true
  · obtain ⟨x, hx, hfx⟩ := h
    obtain ⟨y, hy, hfy⟩ := hasked.1 ⟨x, hx, hfx⟩
    obtain ⟨a, l₁, l₂, -, ha, rfl, hl⟩ := List.exists_of_eraseP hx hfx
    obtain ⟨b, m₁, m₂, -, hb, rfl, hm⟩ := List.exists_of_eraseP hy hfy
    have hab : kind a = kind b := hone a (by simp) b (by simp) ha hb
    rw [hl, hm]
    -- what is lost can be moved to the front of both lists
    have hfront : (kind a :: (l₁ ++ l₂).map kind).Perm (kind b :: (m₁ ++ m₂).map kind) := by
      have hl' : (l₁ ++ a :: l₂).Perm (a :: (l₁ ++ l₂)) := List.perm_middle
      have hm' : (m₁ ++ b :: m₂).Perm (b :: (m₁ ++ m₂)) := List.perm_middle
      exact ((hl'.map kind).symm.trans hperm).trans (hm'.map kind)
    rw [hab] at hfront
    exact hfront.cons_inv
  · have hl : ∀ x ∈ l, ¬ f x = true := fun x hx hfx => h ⟨x, hx, hfx⟩
    have hm : ∀ y ∈ m, ¬ f y = true := fun y hy hfy => h (hasked.2 ⟨y, hy, hfy⟩)
    rw [List.eraseP_of_forall_not hl, List.eraseP_of_forall_not hm]
    exact hperm

theorem leftLines_map_perm {kind : α → γ} (hperm : (l.map kind).Perm (m.map kind))
    (hkind : ∀ p ∈ ps, ∀ x y, kind x = kind y → accepts p x = accepts p y)
    (hone : ∀ p ∈ ps, ∀ x ∈ l, ∀ y ∈ m, accepts p x = true → accepts p y = true →
      kind x = kind y) :
    ((leftLines accepts l ps).map kind).Perm ((leftLines accepts m ps).map kind) := by
  induction ps generalizing l m with
  | nil => exact hperm
  | cons p ps ih =>
    have hstep := eraseP_map_perm hperm (hkind p List.mem_cons_self) (hone p List.mem_cons_self)
    refine ih hstep (fun q hq => hkind q (List.mem_cons_of_mem p hq)) fun q hq x hx y hy => ?_
    exact hone q (List.mem_cons_of_mem p hq) x (List.eraseP_subset hx) y (List.eraseP_subset hy)

/-- As many lines are taken in whichever order they come: which patterns accept it is all that
matters of a line. -/
theorem Separable.takenCount_perm_lines (h : Separable accepts lines patterns)
    (hperm : lines.Perm m) : takenCount accepts lines patterns = takenCount accepts m patterns := by
  let kind (x : α) : List Bool := patterns.map fun p => accepts p x
  have hleft : ((leftLines accepts lines patterns).map kind).Perm
      ((leftLines accepts m patterns).map kind) := by
    apply leftLines_map_perm (hperm.map kind)
    · intro p hp x y he
      exact List.map_inj_left.1 he p hp
    · intro p hp x hx y hy hpx hpy
      refine List.map_inj_left.2 fun q hq => ?_
      exact h.alike hp hq hx (hperm.symm.subset hy) hpx hpy
  have hlength := hleft.length_eq
  rw [List.length_map, List.length_map] at hlength
  have hlines := takenCount_add_length_leftLines accepts lines patterns
  have hm := takenCount_add_length_leftLines accepts m patterns
  have hsame := hperm.length_eq
  omega

theorem Separable.takenCount_perm_patterns (h : Separable accepts lines ps) (hperm : ps.Perm qs) :
    takenCount accepts lines ps = takenCount accepts lines qs := by
  have hps := takenCount_add_length_leftLines accepts lines ps
  have hqs := takenCount_add_length_leftLines accepts lines qs
  rw [← leftLines_perm_patterns hperm h] at hqs
  omega

/-! ## No matching is greater -/

/-- A pattern that has taken nothing would have accepted the line at a position. -/
def Starved (accepts : β → α → Bool) (lines : List α) (patterns : List β) (i : Nat) : Prop :=
  ∃ (k : Nat) (p : β), patterns[k]? = some p ∧
    (assignment accepts lines patterns)[k]? = some none ∧ AcceptsAt accepts lines p i

/-- Such a line has been taken by another pattern. -/
theorem Starved.taken {i : Nat} (h : Starved accepts lines patterns i) :
    ∃ k, (k, i) ∈ takenPairs accepts lines patterns := by
  obtain ⟨k, p, hp, hnone, hi⟩ := h
  obtain ⟨t, ht, htakes⟩ := assignment_takes accepts lines hp
  cases ht.symm.trans hnone
  obtain ⟨l, -, hl⟩ := htakes.left rfl i hi
  exact ⟨l, mem_takenPairs.2 hl⟩

/-- A pattern that has taken a line which another one missed accepts such lines only. -/
theorem Separable.starved (h : Separable accepts lines patterns) (hp : p ∈ patterns) {i j : Nat}
    (hi : AcceptsAt accepts lines p i) (hj : AcceptsAt accepts lines p j)
    (hstarved : Starved accepts lines patterns i) : Starved accepts lines patterns j := by
  obtain ⟨k, q, hq, hnone, x, hx, hqx⟩ := hstarved
  obtain ⟨x', hx', hpx⟩ := hi
  cases hx.symm.trans hx'
  obtain ⟨y, hy, hpy⟩ := hj
  have hagree := h.agree hp (List.mem_of_getElem? hq) (List.mem_of_getElem? hx) hpx hqx
  have hqy : accepts q y = true := (hagree y (List.mem_of_getElem? hy)).symm.trans hpy
  exact ⟨k, q, hq, hnone, y, hy, hqy⟩

open Classical in
/-- The pairs of a matching share their line with a pair of the assignment where a pattern missed
that line, and their pattern with one of the other pairs of the assignment elsewhere. -/
theorem IsMatching.card_le_of_separable (h : IsMatching accepts lines patterns pairs)
    (hsep : Separable accepts lines patterns) :
    pairs.card ≤ takenCount accepts lines patterns := by
  let missed := (takenPairs accepts lines patterns).filter (Starved accepts lines patterns ·.2)
  let others := (takenPairs accepts lines patterns).filter (¬ Starved accepts lines patterns ·.2)
  have hmissed : ∀ {i}, Starved accepts lines patterns i → i ∈ missed.image Prod.snd := by
    intro i hi
    obtain ⟨k, hk⟩ := hi.taken
    exact Finset.mem_image.2 ⟨(k, i), Finset.mem_filter.2 ⟨hk, hi⟩, rfl⟩
  have hcover : pairs ⊆ pairs.filter (·.2 ∈ missed.image Prod.snd) ∪
      pairs.filter (·.1 ∈ others.image Prod.fst) := by
    intro x hx
    rw [Finset.mem_union, Finset.mem_filter, Finset.mem_filter]
    obtain ⟨p, hp, haccepts⟩ := h.accepted x hx
    obtain ⟨t, ht, htakes⟩ := assignment_takes accepts lines hp
    rcases t with _ | j
    -- the pattern has taken nothing, so it missed the line
    · exact .inl ⟨hx, hmissed ⟨x.1, p, hp, ht, haccepts⟩⟩
    · by_cases hj : Starved accepts lines patterns j
      · have htaken := htakes.accepted j rfl
        exact .inl ⟨hx, hmissed (hsep.starved (List.mem_of_getElem? hp) htaken haccepts hj)⟩
      · have hpair : (x.1, j) ∈ others := Finset.mem_filter.2 ⟨mem_takenPairs.2 ht, hj⟩
        exact .inr ⟨hx, Finset.mem_image.2 ⟨(x.1, j), hpair, rfl⟩⟩
  have hlines := card_filter_mem_image_le h.line_inj missed
  have hpatterns := card_filter_mem_image_le h.pattern_inj others
  have hsum : missed.card + others.card = takenCount accepts lines patterns := by
    rw [← card_takenPairs]
    exact Finset.card_filter_add_card_filter_not _
  have hle := (Finset.card_le_card hcover).trans (Finset.card_union_le _ _)
  omega

theorem Separable.isGreatest_takenCount (h : Separable accepts lines patterns) :
    IsGreatest {n | ∃ pairs, IsMatching accepts lines patterns pairs ∧ pairs.card = n}
      (takenCount accepts lines patterns) := by
  refine ⟨⟨_, isMatching_takenPairs, card_takenPairs⟩, ?_⟩
  intro n hn
  obtain ⟨pairs, hpairs, rfl⟩ := hn
  exact hpairs.card_le_of_separable h

end

/-- Where no two patterns overlap in part, neither the order of the lines nor that of the patterns
counts, and no way to match patterns with lines has more pairs than there are lines taken. -/
theorem score_anyOrder_perm (b : Block) (patterns : List Text) (separator answer other : Text)
    (hany : b.options.anyOrder = true) (hpatterns : b.patterns.Perm patterns)
    (hlines : (answerLines b.options separator answer).Perm (answerLines b.options separator other))
    (hsep : Separable accepts (answerLines b.options separator answer)
      (b.patterns.map (compile? b.options))) :
    score { b with patterns := patterns } separator other = score b separator answer ∧
      IsGreatest {n | ∃ pairs, IsMatching accepts (answerLines b.options separator answer)
          (b.patterns.map (compile? b.options)) pairs ∧ pairs.card = n}
        (takenCount accepts (answerLines b.options separator answer)
          (b.patterns.map (compile? b.options))) := by
  refine ⟨?_, hsep.isGreatest_takenCount⟩
  by_cases hnil : b.patterns = []
  · have hnil' : patterns = [] := List.Perm.nil_eq (hnil ▸ hpatterns) ▸ rfl
    rw [score, if_pos hany, score, if_pos hany, scoreAnyOrder, if_pos hnil', scoreAnyOrder,
      if_pos hnil]
  · have hne : patterns ≠ [] := by
      intro he
      subst he
      exact hnil hpatterns.eq_nil
    -- the patterns change places first, and then the lines
    have hcompiled := hpatterns.map (compile? b.options)
    have hsep' : Separable accepts (answerLines b.options separator answer)
        (patterns.map (compile? b.options)) :=
      hsep.mono (List.Subset.refl _) hcompiled.symm.subset
    have hcount := hsep.takenCount_perm_patterns hcompiled
    rw [hsep'.takenCount_perm_lines hlines] at hcount
    rw [score_of_anyOrder (b := { b with patterns := patterns }) hany hne,
      score_of_anyOrder hany hnil, hcount, hlines.length_eq, hpatterns.length_eq]

/-- Two patterns that accept the same lines, one that accepts another line, and one that accepts
none: both orders score the same. -/
theorem score_anyOrder_perm_sample :
    let b : Block :=
      ⟨100, ["aa*".toList, "b".toList, "a+".toList, "(".toList], { anyOrder := true }⟩
    score { b with patterns := ["(".toList, "a+".toList, "b".toList, "aa*".toList] } ['\n']
        "a\nb\nx\naa".toList = ⟨3, 4⟩ ∧ score b ['\n'] "aa\nx\na\nb".toList = ⟨3, 4⟩ := by
  intro b
  obtain ⟨hsame, -⟩ := score_anyOrder_perm b ["(".toList, "a+".toList, "b".toList, "aa*".toList]
    ['\n'] "aa\nx\na\nb".toList "a\nb\nx\naa".toList rfl (by decide) (by decide +kernel) (by
      unfold Separable
      decide +kernel)
  have hscore : score b ['\n'] "aa\nx\na\nb".toList = ⟨3, 4⟩ := by decide +kernel
  exact ⟨hsame.trans hscore, hscore⟩

end AnswerKey.Scoring
