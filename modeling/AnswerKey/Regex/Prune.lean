import AnswerKey.Regex
import Std.Data.HashMap

/-!
# Expressions that are no use

Of expressions that begin with the same rounds and differ only in how many of them may be gone, the
one with the most matches whatever the others do.  `prune` keeps that one of them, and
`matches_prune` says that nothing is lost.
-/

namespace AnswerKey.Regex

/-! ## Spare rounds -/

/-- How many rounds may be gone at the start of an expression, if it starts with rounds none of
which is needed and of which there is an end. -/
def spare? : Regex → Option Nat
  | repeated _ 0 (some n) => some n
  | seq a _ => a.spare?
  | _ => none

/-- The expression with another number of spare rounds, if it has any number of them. -/
def withSpare (n : Nat) : Regex → Regex
  | repeated a 0 (some _) => repeated a 0 (some n)
  | seq a b => seq (a.withSpare n) b
  | r => r

@[simp] theorem withSpare_withSpare (n m : Nat) (r : Regex) :
    (r.withSpare n).withSpare m = r.withSpare m := by
  fun_induction withSpare n r with
  | case1 => rfl
  | case2 a b ih => simp [withSpare, ih]
  | case3 => rfl

@[simp] theorem withSpare_spare (r : Regex) : r.withSpare (r.spare?.getD 0) = r := by
  fun_induction spare? r with
  | case1 => rfl
  | case2 a b ih => simp [withSpare, ih]
  | case3 r h₁ h₂ =>
    unfold withSpare
    split
    · exact absurd rfl (h₁ _ _)
    · exact absurd rfl (h₂ _ _)
    · rfl

/-- More rounds may be gone where fewer may. -/
theorem Matches.more {a : Regex} {n m : Nat} {before after : Option Char} {t : Text} (h : n ≤ m)
    (ht : Matches (repeated a 0 (some n)) before t after) :
    Matches (repeated a 0 (some m)) before t after := by
  generalize hr : repeated a 0 (some n) = r at ht
  induction ht generalizing n m with
  | done => cases hr; exact .done
  | onceMore first _ _ ih =>
    cases hr
    match m, h with
    | m + 1, h => exact .onceMore first (ih (Nat.le_of_succ_le_succ h) rfl)
  | _ => simp_all

/-- An expression with more spare rounds matches what it matches with fewer. -/
theorem Matches.moreSpare {r : Regex} {n m : Nat} {before after : Option Char} {t : Text}
    (h : n ≤ m) (ht : Matches (r.withSpare n) before t after) :
    Matches (r.withSpare m) before t after := by
  induction r generalizing before t after with
  | seq a b iha _ => obtain ⟨⟩ | ⟨⟩ | ⟨⟩ | ⟨ha, hb⟩ := ht; exact .seq (iha ha) hb
  | repeated a least extra =>
    match least, extra with
    | 0, some _ => exact ht.more h
    | 0, none | _ + 1, _ => exact ht
  | _ => exact ht

/-! ## Pruning -/

/-- Expressions without spare rounds, each with the most rounds that were met with it. -/
abbrev Spares := Std.HashMap Regex Nat

/-- The table after one more expression. -/
def Spares.note (table : Spares) (r : Regex) : Spares :=
  table.alter (r.withSpare 0) fun most => some (max (most.getD 0) (r.spare?.getD 0))

/-- Those of some expressions that are of use; of few expressions, each of them once. -/
def prune (rs : List Regex) : List Regex :=
  if rs.length ≤ 8 then rs.eraseDups
  else (rs.foldl Spares.note {}).toList.map fun (key, n) => key.withSpare n

namespace Spares

/-- What is in the table was in it or has been met. -/
theorem mem_of_getElem? {table : Spares} {rs : List Regex} {key : Regex} {n : Nat}
    (h : (rs.foldl note table)[key]? = some n) :
    table[key]? = some n ∨ key.withSpare n ∈ rs := by
  induction rs generalizing table with
  | nil => exact .inl h
  | cons r rs ih =>
    obtain hit | hit := ih h
    · rw [note, Std.HashMap.getElem?_alter] at hit
      split at hit
      · next hkey =>
        obtain rfl := eq_of_beq hkey
        have hmax := Option.some.inj hit
        obtain hle | hle := Nat.le_total (table[r.withSpare 0]?.getD 0) (r.spare?.getD 0)
        · rw [Nat.max_eq_right hle] at hmax
          subst hmax
          exact .inr (by simp)
        · rw [Nat.max_eq_left hle] at hmax
          cases hm : table[r.withSpare 0]? with
          | some m => exact .inl (by simpa [hm] using hmax)
          | none =>
            have hzero : r.spare?.getD 0 = 0 := by simpa [hm] using hle
            have hn : n = 0 := by simpa [hm] using hmax.symm
            have hr : r.withSpare 0 = r := by simpa [hzero] using withSpare_spare r
            exact .inr (by simp [hn, hr])
      · exact .inl hit
    · exact .inr (List.mem_cons_of_mem _ hit)

/-- The most rounds in the table do not become fewer. -/
theorem le_of_getElem? {table : Spares} (rs : List Regex) {key : Regex} {n : Nat}
    (h : table[key]? = some n) : ∃ m, (rs.foldl note table)[key]? = some m ∧ n ≤ m := by
  induction rs generalizing table n with
  | nil => exact ⟨n, h, Nat.le_refl n⟩
  | cons r rs ih =>
    have hnext : ∃ m, (table.note r)[key]? = some m ∧ n ≤ m := by
      simp only [note, Std.HashMap.getElem?_alter]
      split
      · next hkey =>
        obtain rfl := eq_of_beq hkey
        exact ⟨_, rfl, by rw [h]; exact Nat.le_max_left n _⟩
      · exact ⟨n, h, Nat.le_refl n⟩
    obtain ⟨m, hm, hle⟩ := hnext
    obtain ⟨l, hl, hml⟩ := ih hm
    exact ⟨l, hl, Nat.le_trans hle hml⟩

/-- What has been met is in the table, with at least as many rounds. -/
theorem getElem?_of_mem (table : Spares) {rs : List Regex} {r : Regex} (h : r ∈ rs) :
    ∃ n, (rs.foldl note table)[r.withSpare 0]? = some n ∧ r.spare?.getD 0 ≤ n := by
  induction rs generalizing table with
  | nil => cases h
  | cons s rs ih =>
    obtain rfl | h := List.mem_cons.1 h
    · have hnote : (table.note r)[r.withSpare 0]? =
          some (max (table[r.withSpare 0]?.getD 0) (r.spare?.getD 0)) := by simp [note]
      obtain ⟨n, hn, hle⟩ := le_of_getElem? rs hnote
      exact ⟨n, hn, Nat.le_trans (Nat.le_max_right _ _) hle⟩
    · exact ih _ h

end Spares

/-- What is kept was there. -/
theorem mem_of_mem_prune {r : Regex} {rs : List Regex} (h : r ∈ prune rs) : r ∈ rs := by
  unfold prune at h
  split at h
  · exact List.mem_eraseDups.1 h
  · obtain ⟨⟨key, n⟩, hmem, rfl⟩ := List.mem_map.1 h
    rw [Std.HashMap.mem_toList_iff_getElem?_eq_some] at hmem
    simpa using Spares.mem_of_getElem? hmem

/-- Whatever some expressions match, those of use among them match it too. -/
theorem matches_prune {rs : List Regex} {before after : Option Char} {t : Text} :
    (∃ r ∈ prune rs, Matches r before t after) ↔ ∃ r ∈ rs, Matches r before t after := by
  refine ⟨fun ⟨r, hr, ht⟩ => ⟨r, mem_of_mem_prune hr, ht⟩, fun ⟨r, hr, ht⟩ => ?_⟩
  unfold prune
  split
  · exact ⟨r, List.mem_eraseDups.2 hr, ht⟩
  · obtain ⟨n, hn, hle⟩ := Spares.getElem?_of_mem {} hr
    refine ⟨r.withSpare n, List.mem_map.2 ⟨(r.withSpare 0, n), ?_, by simp⟩, ?_⟩
    · exact Std.HashMap.mem_toList_iff_getElem?_eq_some.2 hn
    · rw [← withSpare_spare r] at ht
      exact ht.moreSpare hle

end AnswerKey.Regex
