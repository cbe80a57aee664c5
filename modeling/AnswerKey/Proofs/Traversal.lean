import Mathlib.Data.List.Forall2

/-!
# One step after another

A traversal takes a step for each member of a list, in order, and the first step that fails ends it.
It succeeds if every step does (`mapM_eq_ok_iff`), and it fails as its first failing step does
(`mapM_eq_error_iff`).
-/

namespace AnswerKey.Traversal

variable {α β ε : Type} {f : α → Except ε β} {xs : List α} {ys : List β} {e : ε}

theorem map_eq_ok_iff {γ : Type} {g : β → γ} {x : Except ε β} {c : γ} :
    x.map g = .ok c ↔ ∃ b, x = .ok b ∧ g b = c := by
  cases x with
  | error e => simp [Except.map]
  | ok b => simp [Except.map]

theorem map_eq_error_iff {γ : Type} {g : β → γ} {x : Except ε β} :
    x.map g = .error e ↔ x = .error e := by
  cases x with
  | error e => simp [Except.map]
  | ok b => simp [Except.map]

/-- A result that is there is put in front of the others. -/
theorem mapM_cons_of_ok {x : α} {y : β} (hx : f x = .ok y) :
    (x :: xs).mapM f = (xs.mapM f).map (y :: ·) := by
  rw [List.mapM_cons, hx]
  cases xs.mapM f <;> rfl

/-- The first failure ends the traversal. -/
theorem mapM_cons_of_error {x : α} (hx : f x = .error e) : (x :: xs).mapM f = .error e := by
  rw [List.mapM_cons, hx]
  rfl

/-- A traversal succeeds just if each of its steps does, with their results in order. -/
theorem mapM_eq_ok_iff :
    xs.mapM f = .ok ys ↔ List.Forall₂ (fun x y => f x = .ok y) xs ys := by
  induction xs generalizing ys with
  | nil => cases ys <;> simp [pure, Except.pure]
  | cons x xs ih =>
    cases hx : f x with
    | error e =>
      rw [mapM_cons_of_error hx]
      cases ys <;> simp [hx]
    | ok y =>
      rw [mapM_cons_of_ok hx, map_eq_ok_iff]
      cases ys with
      | nil => simp
      | cons y' ys => simp [hx, ih, and_comm]

/-- A traversal fails with its first step that does. -/
theorem mapM_eq_error_iff :
    xs.mapM f = .error e ↔ ∃ before x after, xs = before ++ x :: after ∧
      (∀ y ∈ before, ∃ b, f y = .ok b) ∧ f x = .error e := by
  -- on the list: the first step fails, or it succeeds and a later one fails
  induction xs with
  | nil => simp [pure, Except.pure]
  | cons x xs ih =>
    cases hx : f x with
    | error e' =>
      rw [mapM_cons_of_error hx]
      constructor
      · rintro ⟨⟩
        exact ⟨[], x, xs, rfl, List.forall_mem_nil _, hx⟩
      · rintro ⟨before, y, after, hxs, hbefore, hy⟩
        cases before with
        | nil =>
          obtain ⟨rfl, -⟩ := List.cons.inj hxs
          rw [Except.error.inj (hx.symm.trans hy)]
        | cons z before =>
          obtain ⟨rfl, -⟩ := List.cons.inj hxs
          obtain ⟨b, hb⟩ := hbefore x (.head _)
          rw [hx] at hb
          cases hb
    | ok b =>
      rw [mapM_cons_of_ok hx, map_eq_error_iff, ih]
      constructor
      · rintro ⟨before, y, after, rfl, hbefore, hy⟩
        exact ⟨x :: before, y, after, rfl, List.forall_mem_cons.2 ⟨⟨b, hx⟩, hbefore⟩, hy⟩
      · rintro ⟨before, y, after, hxs, hbefore, hy⟩
        cases before with
        | nil =>
          obtain ⟨rfl, -⟩ := List.cons.inj hxs
          rw [hx] at hy
          cases hy
        | cons z before =>
          obtain ⟨-, rfl⟩ := List.cons.inj hxs
          exact ⟨before, y, after, rfl, (List.forall_mem_cons.1 hbefore).2, hy⟩

/-- Steps that succeed can be taken first. -/
theorem mapM_append_of_ok {zs : List α} (h : List.Forall₂ (fun x y => f x = .ok y) xs ys) :
    (xs ++ zs).mapM f = (zs.mapM f).map (ys ++ ·) := by
  induction h with
  | nil => cases hzs : zs.mapM f <;> simp [hzs, Except.map]
  | cons hx _ ih =>
    rw [List.cons_append, mapM_cons_of_ok hx, ih]
    cases zs.mapM f <;> rfl

/-- A traversal fails if some step does. -/
theorem exists_mapM_eq_error_iff :
    (∃ e, xs.mapM f = .error e) ↔ ∃ x ∈ xs, ∃ e, f x = .error e := by
  induction xs with
  | nil => simp [pure, Except.pure]
  | cons x xs ih =>
    cases hx : f x with
    | error e => simp [mapM_cons_of_error hx, hx]
    | ok y => simp [mapM_cons_of_ok hx, map_eq_error_iff, ih, hx]

end AnswerKey.Traversal
