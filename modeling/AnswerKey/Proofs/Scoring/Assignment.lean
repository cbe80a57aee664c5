import AnswerKey.Scoring.Assignment
import Mathlib.Data.List.Basic
import Mathlib.Data.List.Nodup
import Mathlib.Data.List.Perm.Subperm

/-!
# What each pattern takes

Whatever the patterns are and whichever lines they accept, each takes the first line it accepts that
no earlier one has taken.  All that is said about an assignment here follows from `assignment_takes`.
-/

namespace AnswerKey.Scoring

variable {α β : Type} {accepts : β → α → Bool} {lines : List α} {patterns : List β}
  {earlier : List Nat} {p : β} {i j k l : Nat}

/-- The lines that are still free when some have been taken, with their positions. -/
def freeLines (lines : List α) (earlier : List Nat) : List (α × Nat) :=
  lines.zipIdx.filter fun line => !earlier.contains line.2

/-- A pattern accepts the line at a position. -/
def AcceptsAt (accepts : β → α → Bool) (lines : List α) (p : β) (i : Nat) : Prop :=
  ∃ line, lines[i]? = some line ∧ accepts p line = true

/-- What a pattern takes, if it takes anything, is the first line that it accepts among those that
have not been taken earlier. -/
structure Takes (accepts : β → α → Bool) (lines : List α) (earlier : Nat → Prop) (p : β)
    (t : Option Nat) : Prop where
  accepted : ∀ i, t = some i → AcceptsAt accepts lines p i
  free : ∀ i, t = some i → ¬ earlier i
  first : ∀ i, t = some i → ∀ j < i, AcceptsAt accepts lines p j → earlier j
  left : t = none → ∀ j, AcceptsAt accepts lines p j → earlier j

/-- One of the first `k` patterns has taken the line at a position. -/
def TakenBefore (ts : List (Option Nat)) (k i : Nat) : Prop :=
  ∃ l, l < k ∧ ts[l]? = some (some i)

/-! ## One pattern -/

/-- A line is free if it is there and was not taken before. -/
theorem mem_freeLines {line : α} :
    (line, i) ∈ freeLines lines earlier ↔ lines[i]? = some line ∧ i ∉ earlier := by
  unfold freeLines
  rw [List.mem_filter, List.mem_zipIdx_iff_getElem?]
  simp

theorem freeLines_nil : freeLines lines [] = lines.zipIdx := by
  simp [freeLines]

/-- To take a line is to strike it out from those that were free. -/
theorem freeLines_cons :
    freeLines lines (i :: earlier) = (freeLines lines earlier).filter fun line => line.2 != i := by
  unfold freeLines
  rw [List.filter_filter]
  refine List.filter_congr fun line _ => ?_
  by_cases hi : line.2 = i <;> simp [hi]

/-- Free lines stay in order. -/
theorem freeLines_pairwise : (freeLines lines earlier).Pairwise fun x y => x.2 < y.2 := by
  have hindex : (lines.zipIdx.map Prod.snd).Pairwise (· < ·) := by
    rw [List.zipIdx_map_snd]
    exact List.pairwise_lt_range'
  exact (List.pairwise_map.1 hindex).filter _

/-- A pattern that finds no free line takes none. -/
theorem takes_none (h : (freeLines lines earlier).find? (fun line => accepts p line.1) = none) :
    Takes accepts lines (· ∈ earlier) p none where
  accepted i hi := nomatch hi
  free i hi := nomatch hi
  first i hi := nomatch hi
  left _ j hj := by
    obtain ⟨line, hline, haccepts⟩ := hj
    by_contra hfree
    exact List.find?_eq_none.1 h (line, j) (mem_freeLines.2 ⟨hline, hfree⟩) haccepts

/-- The line a pattern finds is the first of the free ones that it accepts. -/
theorem takes_some {line : α}
    (h : (freeLines lines earlier).find? (fun line => accepts p line.1) = some (line, i)) :
    Takes accepts lines (· ∈ earlier) p (some i) := by
  obtain ⟨haccepts, before, behind, hsplit, hbefore⟩ := List.find?_eq_some_iff_append.1 h
  have hmem : (line, i) ∈ freeLines lines earlier := by simp [hsplit]
  obtain ⟨hline, hfree⟩ := mem_freeLines.1 hmem
  refine ⟨?_, ?_, ?_, nofun⟩
  · intro i' hi
    cases hi
    exact ⟨line, hline, haccepts⟩
  · intro i' hi
    cases hi
    exact hfree
  · intro i' hi j hj hacceptsAt
    cases hi
    obtain ⟨line', hline', haccepts'⟩ := hacceptsAt
    by_contra hfree'
    have hmem' := mem_freeLines.2 ⟨hline', hfree'⟩
    have hsorted : (before ++ (line, i) :: behind).Pairwise fun x y => x.2 < y.2 :=
      hsplit ▸ freeLines_pairwise
    -- a free line stands before the one that was taken, is that one, or stands behind it
    rw [hsplit, List.mem_append, List.mem_cons] at hmem'
    rcases hmem' with hmem' | he | hmem'
    · have hno := hbefore _ hmem'
      simp [haccepts'] at hno
    · have hij := congrArg Prod.snd he
      simp only at hij
      omega
    · -- a line behind the one that was taken has a greater position
      have hlt := (List.pairwise_cons.1 (List.pairwise_append.1 hsorted).2.1).1 _ hmem'
      simp only at hlt
      omega

/-! ## All patterns -/

theorem not_takenBefore_zero {ts : List (Option Nat)} : ¬ TakenBefore ts 0 i :=
  fun h => nomatch h.choose_spec.1

/-- What is taken before a later pattern was taken by the first one or between them. -/
theorem takenBefore_cons {t : Option Nat} {ts : List (Option Nat)} :
    TakenBefore (t :: ts) (k + 1) i ↔ t = some i ∨ TakenBefore ts k i := by
  constructor
  · intro h
    obtain ⟨l, hl, hi⟩ := h
    rcases l with _ | l
    · exact .inl (Option.some.inj hi)
    · exact .inr ⟨l, by omega, hi⟩
  · intro h
    rcases h with rfl | ⟨l, hl, hi⟩
    · exact ⟨0, by omega, rfl⟩
    · exact ⟨l + 1, by omega, hi⟩

theorem Takes.congr {earlier later : Nat → Prop} {t : Option Nat} (h : ∀ i, earlier i ↔ later i)
    (ht : Takes accepts lines earlier p t) : Takes accepts lines later p t := by
  obtain rfl : earlier = later := funext fun i => propext (h i)
  exact ht

/-- Each pattern takes from the lines that neither the earlier ones nor those before it in the list
have taken. -/
theorem assign_takes (accepts : β → α → Bool) (lines : List α) (earlier : List Nat)
    (h : patterns[k]? = some p) :
    ∃ t, (assign accepts (freeLines lines earlier) patterns)[k]? = some t ∧
      Takes accepts lines (fun i => i ∈ earlier ∨
        TakenBefore (assign accepts (freeLines lines earlier) patterns) k i) p t := by
  -- what a pattern takes is no longer free for the others, so `earlier` grows along the patterns
  induction patterns generalizing earlier k with
  | nil => cases h
  | cons q patterns ih =>
    cases hfind : (freeLines lines earlier).find? fun line => accepts q line.1 with
    | none =>
      have hassign : assign accepts (freeLines lines earlier) (q :: patterns) =
          none :: assign accepts (freeLines lines earlier) patterns := by
        rw [assign, hfind]
      rw [hassign]
      rcases k with _ | k
      · cases h
        exact ⟨none, rfl, (takes_none hfind).congr fun i => by simp [not_takenBefore_zero]⟩
      · obtain ⟨t, ht, htakes⟩ := ih earlier h
        exact ⟨t, ht, htakes.congr fun i => by simp [takenBefore_cons]⟩
    | some line =>
      obtain ⟨line, i⟩ := line
      have hassign : assign accepts (freeLines lines earlier) (q :: patterns) =
          some i :: assign accepts (freeLines lines (i :: earlier)) patterns := by
        rw [assign, hfind, freeLines_cons]
      rw [hassign]
      rcases k with _ | k
      · cases h
        exact ⟨some i, rfl, (takes_some hfind).congr fun i => by simp [not_takenBefore_zero]⟩
      · obtain ⟨t, ht, htakes⟩ := ih (i :: earlier) h
        refine ⟨t, ht, htakes.congr fun j => ?_⟩
        rw [takenBefore_cons, List.mem_cons, Option.some.injEq, eq_comm, or_assoc, or_left_comm]

/-- Each pattern takes the first line that it accepts and no earlier one has taken. -/
theorem assignment_takes (accepts : β → α → Bool) (lines : List α) (h : patterns[k]? = some p) :
    ∃ t, (assignment accepts lines patterns)[k]? = some t ∧
      Takes accepts lines (TakenBefore (assignment accepts lines patterns) k) p t := by
  obtain ⟨t, ht, htakes⟩ := assign_takes accepts lines [] h
  rw [freeLines_nil] at ht htakes
  exact ⟨t, ht, htakes.congr fun i => by simp [assignment]⟩

/-- There is an entry for each pattern. -/
theorem length_assign (free : List (α × Nat)) :
    (assign accepts free patterns).length = patterns.length := by
  fun_induction assign accepts free patterns <;> simp_all

theorem length_assignment (accepts : β → α → Bool) (lines : List α) (patterns : List β) :
    (assignment accepts lines patterns).length = patterns.length :=
  length_assign lines.zipIdx

/-! ## The lines that are taken -/

variable {t : Option Nat}

/-- Every entry of an assignment is what its pattern takes. -/
theorem takes_of_getElem? (h : (assignment accepts lines patterns)[k]? = some t) :
    ∃ p, patterns[k]? = some p ∧
      Takes accepts lines (TakenBefore (assignment accepts lines patterns) k) p t := by
  have hk : k < patterns.length := by
    rw [← length_assignment accepts lines]
    exact (List.getElem?_eq_some_iff.1 h).1
  obtain ⟨t', ht', htakes⟩ := assignment_takes accepts lines (List.getElem?_eq_getElem hk)
  cases ht'.symm.trans h
  exact ⟨patterns[k], List.getElem?_eq_getElem hk, htakes⟩

/-- No line is taken twice. -/
theorem assignment_injective (hk : (assignment accepts lines patterns)[k]? = some (some i))
    (hl : (assignment accepts lines patterns)[l]? = some (some i)) : k = l := by
  obtain ⟨_, -, htakes⟩ := takes_of_getElem? hk
  obtain ⟨_, -, htakes'⟩ := takes_of_getElem? hl
  rcases Nat.lt_trichotomy k l with hlt | he | hlt
  · exact (htakes'.free i rfl ⟨k, hlt, hk⟩).elim
  · exact he
  · exact (htakes.free i rfl ⟨l, hlt, hl⟩).elim

/-- The positions of the lines that are taken, in the order of the patterns. -/
def takenLines (accepts : β → α → Bool) (lines : List α) (patterns : List β) : List Nat :=
  (assignment accepts lines patterns).filterMap id

/-- The lines taken are those that some pattern took. -/
theorem mem_takenLines :
    i ∈ takenLines accepts lines patterns ↔
      ∃ k : Nat, (assignment accepts lines patterns)[k]? = some (some i) := by
  unfold takenLines
  rw [List.mem_filterMap]
  simp [List.mem_iff_getElem?]

/-- No line is taken twice. -/
theorem takenLines_nodup : (takenLines accepts lines patterns).Nodup := by
  unfold takenLines List.Nodup
  rw [List.pairwise_filterMap, List.pairwise_iff_getElem]
  intro k l hk hl hlt i hi j hj he
  subst he
  have hkl := assignment_injective (List.getElem?_eq_some_iff.2 ⟨hk, hi⟩)
    (List.getElem?_eq_some_iff.2 ⟨hl, hj⟩)
  omega

theorem lt_of_mem_takenLines (h : i ∈ takenLines accepts lines patterns) : i < lines.length := by
  obtain ⟨k, hk⟩ := mem_takenLines.1 h
  obtain ⟨_, -, htakes⟩ := takes_of_getElem? hk
  obtain ⟨line, hline, -⟩ := htakes.accepted i rfl
  exact (List.getElem?_eq_some_iff.1 hline).1

/-- A pattern takes no more than one line. -/
theorem takenCount_le_patterns : takenCount accepts lines patterns ≤ patterns.length := by
  rw [← length_assignment accepts lines patterns]
  exact List.length_filterMap_le id _

/-- A line is taken no more than once. -/
theorem takenCount_le_lines : takenCount accepts lines patterns ≤ lines.length := by
  have hsub : takenLines accepts lines patterns ⊆ List.range lines.length :=
    fun i hi => List.mem_range.2 (lt_of_mem_takenLines hi)
  have hle := (takenLines_nodup.subperm hsub).length_le
  rwa [List.length_range] at hle

/-- As many lines are taken as there are patterns if every pattern takes one. -/
theorem takenCount_eq_iff : takenCount accepts lines patterns = patterns.length ↔
    ∀ t ∈ assignment accepts lines patterns, t ≠ none := by
  have hcount : takenCount accepts lines patterns =
      (assignment accepts lines patterns).countP Option.isSome := by
    unfold takenCount
    rw [List.length_filterMap_eq_countP]
    rfl
  rw [hcount, ← length_assignment accepts lines patterns, List.countP_eq_length]
  simp only [Option.isSome_iff_ne_none]

/-- No line is taken if no pattern accepts any. -/
theorem takenCount_eq_zero_iff : takenCount accepts lines patterns = 0 ↔
    ∀ p ∈ patterns, ∀ line ∈ lines, ¬ accepts p line = true := by
  have hcount : takenCount accepts lines patterns = 0 ↔ takenLines accepts lines patterns = [] :=
    List.length_eq_zero_iff
  rw [hcount, List.eq_nil_iff_forall_not_mem]
  constructor
  · intro hnone p hp line hline haccepts
    obtain ⟨k, hk⟩ := List.mem_iff_getElem?.1 hp
    obtain ⟨j, hj⟩ := List.mem_iff_getElem?.1 hline
    obtain ⟨t, ht, htakes⟩ := assignment_takes accepts lines hk
    rcases t with _ | i
    · obtain ⟨l, -, hl⟩ := htakes.left rfl j ⟨line, hj, haccepts⟩
      exact hnone j (mem_takenLines.2 ⟨l, hl⟩)
    · exact hnone i (mem_takenLines.2 ⟨k, ht⟩)
  · intro hreject i hi
    obtain ⟨k, hk⟩ := mem_takenLines.1 hi
    obtain ⟨p, hp, htakes⟩ := takes_of_getElem? hk
    obtain ⟨line, hline, haccepts⟩ := htakes.accepted i rfl
    exact hreject p (List.mem_of_getElem? hp) line (List.mem_of_getElem? hline) haccepts

end AnswerKey.Scoring
