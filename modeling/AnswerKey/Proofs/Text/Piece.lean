import AnswerKey.Proofs.Text.Delimiter
import Mathlib.Data.List.Infix
import Mathlib.Data.List.TakeWhile

/-!
# Pieces of a text

The pieces that a text is cut into stand in it one behind the other, the last one at its end.  A
delimiter that is read the same whatever follows it does not occur in any of them: it would have
been found there.
-/

namespace AnswerKey.Text

namespace Delimiter

variable {α : Type} {d : Delimiter α} {a : α} {t before piece rest : Text}

/-- What is found stands in the text, and nothing is read any earlier. -/
theorem find?_eq_some (h : d.find? t = some (before, a, rest)) :
    ∃ tail, t = before ++ tail ∧ d.read? tail = some (a, rest) ∧
      ∀ u v, before = u ++ v → v ≠ [] → d.read? (v ++ tail) = none := by
  induction t generalizing before with
  | nil => cases h
  | cons c t ih =>
    cases hread : d.read? (c :: t) with
    | some found =>
      rw [find?_cons_of_some hread] at h
      cases h
      refine ⟨c :: t, rfl, hread, fun u v he hv => ?_⟩
      exact absurd (List.append_eq_nil_iff.1 he.symm).2 hv
    | none =>
      rw [find?_cons_of_none hread] at h
      obtain ⟨⟨before', a', rest'⟩, hfind, he⟩ := Option.map_eq_some_iff.1 h
      cases he
      obtain ⟨tail, rfl, htail, hearlier⟩ := ih hfind
      refine ⟨tail, rfl, htail, fun u v he hv => ?_⟩
      rcases u with _ | ⟨b, u⟩
      · -- the whole of what stands before
        have hv' : v = c :: before' := he.symm
        rw [hv']
        exact hread
      · exact hearlier u v (List.cons.inj he).2 hv

/-- A delimiter that is read off the front of a text, whatever follows it. -/
structure IsLocal (d : Delimiter α) : Prop where
  read?_append : ∀ {t a rest}, d.read? t = some (a, rest) →
    ∀ more, d.read? (t ++ more) = some (a, rest ++ more)
  suffix_of_read? : ∀ {t a rest}, d.read? t = some (a, rest) → rest <:+ t

/-- The delimiter does not occur in front of its leftmost occurrence. -/
theorem IsLocal.find?_before (hd : IsLocal d) (h : d.find? t = some (before, a, rest)) :
    d.find? before = none := by
  obtain ⟨tail, -, -, hearlier⟩ := find?_eq_some h
  refine find?_eq_none_iff.2 fun u v he hv => ?_
  cases hread : d.read? v with
  | none => rfl
  | some found =>
    have hmore := hd.read?_append hread tail
    rw [hearlier u v he hv] at hmore
    cases hmore

/-- What stands before a delimiter is the beginning of the text. -/
theorem prefix_of_find? (h : d.find? t = some (before, a, rest)) : before <+: t := by
  obtain ⟨tail, rfl, -, -⟩ := find?_eq_some h
  exact List.prefix_append before tail

theorem IsLocal.suffix_of_find? (hd : IsLocal d)
    (h : d.find? t = some (before, a, rest)) : rest <:+ t := by
  obtain ⟨tail, rfl, hread, -⟩ := find?_eq_some h
  exact (hd.suffix_of_read? hread).trans (List.suffix_append before tail)

/-- Pieces are parts of the text. -/
theorem IsLocal.infix_of_mem_split (hd : IsLocal d) (h : piece ∈ d.split t) :
    piece <:+: t := by
  induction hn : t.length using Nat.strong_induction_on generalizing t with
  | _ n ih =>
  cases hfind : d.find? t with
  | none =>
    rw [split_of_find?_eq_none hfind, List.mem_singleton] at h
    exact h ▸ List.infix_rfl
  | some found =>
    obtain ⟨before, a, rest⟩ := found
    have hrest : rest <:+ t := hd.suffix_of_find? hfind
    rw [split_of_find?_eq_some hfind, List.mem_cons] at h
    rcases h with rfl | h
    · exact (prefix_of_find? hfind).isInfix
    · have hlt : rest.length < n := hn ▸ d.length_of_find? hfind
      exact (ih rest.length hlt h rfl).trans hrest.isInfix

/-- The last piece is the end of the text. -/
theorem IsLocal.suffix_of_getLast? (hd : IsLocal d)
    (h : (d.split t).getLast? = some piece) : piece <:+ t := by
  induction hn : t.length using Nat.strong_induction_on generalizing t with
  | _ n ih =>
  cases hfind : d.find? t with
  | none =>
    rw [split_of_find?_eq_none hfind] at h
    exact Option.some.inj h ▸ List.suffix_rfl
  | some found =>
    obtain ⟨before, a, rest⟩ := found
    have hrest : rest <:+ t := hd.suffix_of_find? hfind
    have hlt : rest.length < n := hn ▸ d.length_of_find? hfind
    rw [split_of_find?_eq_some hfind, List.getLast?_cons_of_ne_nil split_ne_nil] at h
    exact (ih rest.length hlt h rfl).trans hrest

/-- The delimiter does not occur in any piece. -/
theorem IsLocal.find?_of_mem_split (hd : IsLocal d) (h : piece ∈ d.split t) :
    d.find? piece = none := by
  induction hn : t.length using Nat.strong_induction_on generalizing t with
  | _ n ih =>
  cases hfind : d.find? t with
  | none =>
    rw [split_of_find?_eq_none hfind, List.mem_singleton] at h
    exact h ▸ hfind
  | some found =>
    obtain ⟨before, a, rest⟩ := found
    rw [split_of_find?_eq_some hfind, List.mem_cons] at h
    rcases h with rfl | h
    · exact hd.find?_before hfind
    · exact ih rest.length (hn ▸ d.length_of_find? hfind) h rfl

end Delimiter

/-! ## Lines -/

variable {s t line : Text}

theorem isLocal_ofText (hs : s ≠ []) : (Delimiter.ofText s hs).IsLocal where
  read?_append := by
    intro t a rest h more
    obtain ⟨rest', hafter, he⟩ := Option.map_eq_some_iff.1 h
    cases he
    have ht : t ++ more = s ++ (rest ++ more) := by
      rw [after?_eq_some.1 hafter, List.append_assoc]
    show (after? s (t ++ more)).map _ = _
    rw [after?_eq_some.2 ht]
    rfl
  suffix_of_read? := by
    intro t a rest h
    obtain ⟨rest', hafter, he⟩ := Option.map_eq_some_iff.1 h
    cases he
    exact ⟨s, (after?_eq_some.1 hafter).symm⟩

/-- A line is a part of the text without a newline. -/
theorem line_of_mem_lines (h : line ∈ lines t) : line <:+: t ∧ '\n' ∉ line := by
  refine ⟨(isLocal_ofText _).infix_of_mem_split h, fun hmem => ?_⟩
  have hnone := (isLocal_ofText _).find?_of_mem_split h
  obtain ⟨u, v, rfl⟩ := List.append_of_mem hmem
  have hread := Delimiter.find?_eq_none_iff.1 hnone u ('\n' :: v) rfl (List.cons_ne_nil _ _)
  cases hread

/-! ## Padding -/

theorem prefix_trimEnd (t : Text) : trimEnd t <+: t := by
  have h := List.dropWhile_suffix isPadding (l := t.reverse)
  rw [← List.reverse_prefix, List.reverse_reverse] at h
  exact h

/-- What is left after trimming is a part of the text. -/
theorem infix_trim (t : Text) : trim t <:+: t :=
  (prefix_trimEnd _).isInfix.trans (List.dropWhile_suffix _).isInfix

/-- No padding is left at the end. -/
theorem getLast?_trimEnd (t : Text) : ∀ c ∈ (trimEnd t).getLast?, isPadding c = false := by
  intro c hc
  unfold trimEnd at hc
  rw [List.getLast?_reverse] at hc
  have hhead := List.head?_dropWhile_not isPadding t.reverse
  rw [Option.mem_def.1 hc] at hhead
  simpa using hhead

end AnswerKey.Text
