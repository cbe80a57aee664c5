import AnswerKey.Proofs.Scoring.Assignment

/-!
# The lines that are left

How many lines an assignment takes can be told without positions: each pattern in turn takes the
first line that it accepts out of a list, and the lines that are taken are those that are missing
from the list in the end.
-/

namespace AnswerKey.Scoring

variable {α β : Type} {accepts : β → α → Bool} {lines : List α} {patterns : List β} {p : β}

/-- The lines that are left when each pattern in turn has taken the first one that it accepts. -/
def leftLines (accepts : β → α → Bool) (lines : List α) (patterns : List β) : List α :=
  patterns.foldl (fun left p => left.eraseP (accepts p)) lines

theorem leftLines_cons : leftLines accepts lines (p :: patterns) =
    leftLines accepts (lines.eraseP (accepts p)) patterns := rfl

/-- What a pattern takes is the only free line with its position. -/
theorem filter_position_ne {before behind : List (α × Nat)} {line : α} {i : Nat}
    (h : ((before ++ (line, i) :: behind).map Prod.snd).Nodup) :
    (before ++ (line, i) :: behind).filter (fun line => line.2 != i) = before ++ behind := by
  rw [List.map_append, List.map_cons, List.nodup_append, List.nodup_cons] at h
  obtain ⟨-, ⟨hbehind, -⟩, hbefore⟩ := h
  have hkeepBefore : before.filter (fun line => line.2 != i) = before := by
    refine List.filter_eq_self.2 fun x hx => bne_iff_ne.2 ?_
    exact hbefore x.2 (List.mem_map_of_mem hx) i List.mem_cons_self
  have hkeepBehind : behind.filter (fun line => line.2 != i) = behind := by
    refine List.filter_eq_self.2 fun x hx => bne_iff_ne.2 ?_
    intro he
    exact hbehind (List.mem_map.2 ⟨x, hx, he⟩)
  have hdrop : ((line, i) :: behind).filter (fun line => line.2 != i) = behind := by
    rw [List.filter_cons_of_neg (by simp), hkeepBehind]
  rw [List.filter_append, hkeepBefore, hdrop]

/-- A free line is taken or left. -/
theorem length_assign_add_length_leftLines (accepts : β → α → Bool) (patterns : List β)
    {free : List (α × Nat)} (hfree : (free.map Prod.snd).Nodup) :
    ((assign accepts free patterns).filterMap id).length +
      (leftLines accepts (free.map Prod.fst) patterns).length = free.length := by
  -- the free lines keep their distinct positions, so each step removes exactly one of them
  induction patterns generalizing free with
  | nil => simp [assign, leftLines]
  | cons p patterns ih =>
    cases hfind : free.find? fun line => accepts p line.1 with
    | none =>
      have hassign : assign accepts free (p :: patterns) = none :: assign accepts free patterns := by
        rw [assign, hfind]
      have hleft : (free.map Prod.fst).eraseP (accepts p) = free.map Prod.fst := by
        apply List.eraseP_of_forall_not
        intro line hline
        obtain ⟨x, hx, rfl⟩ := List.mem_map.1 hline
        exact List.find?_eq_none.1 hfind x hx
      rw [hassign, leftLines_cons, hleft, List.filterMap_cons_none rfl]
      exact ih hfree
    | some taken =>
      obtain ⟨line, i⟩ := taken
      obtain ⟨haccepts, before, behind, rfl, hbefore⟩ := List.find?_eq_some_iff_append.1 hfind
      have hfilter := filter_position_ne hfree
      have hassign : assign accepts (before ++ (line, i) :: behind) (p :: patterns) =
          some i :: assign accepts (before ++ behind) patterns := by
        rw [assign, hfind]
        show some i :: assign accepts (List.filter _ _) patterns = _
        rw [hfilter]
      have hleft : ((before ++ (line, i) :: behind).map Prod.fst).eraseP (accepts p) =
          (before ++ behind).map Prod.fst := by
        have hno : ∀ x ∈ before.map Prod.fst, ¬ accepts p x = true := by
          intro x hx
          obtain ⟨y, hy, rfl⟩ := List.mem_map.1 hx
          have hreject := hbefore y hy
          simpa using hreject
        rw [List.map_append, List.map_cons, List.eraseP_append_right _ hno,
          List.eraseP_cons_of_pos haccepts, ← List.map_append]
      have hrest : ((before ++ behind).map Prod.snd).Nodup := by
        rw [← hfilter]
        exact (List.filter_sublist.map Prod.snd).nodup hfree
      have hmore : (some i :: assign accepts (before ++ behind) patterns).filterMap id =
          i :: (assign accepts (before ++ behind) patterns).filterMap id := rfl
      have hcount := ih hrest
      rw [hassign, leftLines_cons, hleft, hmore]
      simp only [List.length_cons, List.length_append] at hcount ⊢
      omega

/-- A line is taken or left. -/
theorem takenCount_add_length_leftLines (accepts : β → α → Bool) (lines : List α)
    (patterns : List β) :
    takenCount accepts lines patterns + (leftLines accepts lines patterns).length =
      lines.length := by
  have hpositions : (lines.zipIdx.map Prod.snd).Nodup := by
    rw [List.zipIdx_map_snd]
    exact List.nodup_range'
  have hlines : lines.zipIdx.map Prod.fst = lines := List.zipIdx_map_fst 0 lines
  have hcount := length_assign_add_length_leftLines accepts patterns hpositions
  rw [hlines, List.length_zipIdx] at hcount
  exact hcount

end AnswerKey.Scoring
