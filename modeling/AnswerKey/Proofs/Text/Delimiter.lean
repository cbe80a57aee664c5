import AnswerKey.Text.Delimiter

/-!
# Looking for delimiters

The leftmost occurrence of a delimiter stands behind any text that none of its occurrences begins
in.  A text is cut there first, and then what follows is cut.
-/

namespace AnswerKey.Text

namespace Delimiter

variable {α : Type} {d : Delimiter α} {a : α} {c : Char} {s t before rest : Text}

/-- What is found in a text, seen from a text that it is the end of. -/
def behind (s : Text) (found : Text × α × Text) : Text × α × Text :=
  (s ++ found.1, found.2)

theorem find?_cons_of_some (h : d.read? (c :: t) = some (a, rest)) :
    d.find? (c :: t) = some ([], a, rest) := by
  rw [find?, h]

/-- Where none stands at the front, the search goes on behind the first character. -/
theorem find?_cons_of_none (h : d.read? (c :: t) = none) :
    d.find? (c :: t) = (d.find? t).map (behind [c]) := by
  rw [find?, h]
  rfl

/-- Nothing is read at the start of a text in which nothing is found. -/
theorem read?_of_find?_eq_none (h : d.find? (c :: t) = none) : d.read? (c :: t) = none := by
  cases hread : d.read? (c :: t) with
  | none => rfl
  | some found =>
    rw [find?_cons_of_some hread] at h
    cases h

/-- What is not found in a text is not found in its rest. -/
theorem find?_of_find?_cons_eq_none (h : d.find? (c :: t) = none) : d.find? t = none := by
  rw [find?_cons_of_none (read?_of_find?_eq_none h), Option.map_eq_none_iff] at h
  exact h

/-- What no occurrence begins in can be left out of the search. -/
theorem find?_append (h : ∀ u v, s = u ++ v → v ≠ [] → d.read? (v ++ t) = none) :
    d.find? (s ++ t) = (d.find? t).map (behind s) := by
  induction s with
  | nil =>
    show d.find? t = (d.find? t).map id
    rw [Option.map_id_fun, id]
  | cons c s ih =>
    have hc : d.read? (c :: (s ++ t)) = none := h [] (c :: s) rfl (List.cons_ne_nil c s)
    have hs : d.find? (s ++ t) = (d.find? t).map (behind s) := by
      apply ih
      intro u v he hv
      exact h (c :: u) v (congrArg (c :: ·) he) hv
    rw [List.cons_append, find?_cons_of_none hc, hs, Option.map_map]
    rfl

theorem behind_behind (s t : Text) (found : Text × α × Text) :
    behind s (behind t found) = behind (s ++ t) found := by
  unfold behind
  rw [List.append_assoc]

/-- Nothing is found in a text if nothing is read anywhere in it. -/
theorem find?_eq_none_iff : d.find? t = none ↔ ∀ u v, t = u ++ v → v ≠ [] → d.read? v = none := by
  constructor
  · intro h u
    induction u generalizing t with
    | nil =>
      intro v he hv
      obtain ⟨c, v, rfl⟩ := List.exists_cons_of_ne_nil hv
      subst he
      exact read?_of_find?_eq_none h
    | cons c u ih =>
      intro v he hv
      subst he
      exact ih (find?_of_find?_cons_eq_none h) v rfl hv
  · intro h
    have hall := find?_append (d := d) (s := t) (t := []) fun u v he hv => by
      rw [List.append_nil]
      exact h u v he hv
    rw [List.append_nil] at hall
    exact hall

theorem split_of_find?_eq_none (h : d.find? t = none) : d.split t = [t] := by
  rw [split]
  split
  · rfl
  · next hfind =>
    rw [h] at hfind
    cases hfind

/-- The first piece ends at the first delimiter. -/
theorem split_of_find?_eq_some (h : d.find? t = some (before, a, rest)) :
    d.split t = before :: d.split rest := by
  rw [split]
  split
  · next hfind =>
    rw [h] at hfind
    cases hfind
  · next hfind =>
    rw [h] at hfind
    cases hfind
    rfl

theorem split_ne_nil : d.split t ≠ [] := by
  cases hfind : d.find? t with
  | none =>
    rw [split_of_find?_eq_none hfind]
    exact List.cons_ne_nil t []
  | some found =>
    rw [split_of_find?_eq_some hfind]
    exact List.cons_ne_nil _ _

end Delimiter

/-! ## Cutting at a character -/

/-- The pieces of a text between the occurrences of a character. -/
def pieces (c : Char) (t : Text) : List Text :=
  (Delimiter.ofText [c] (List.cons_ne_nil c [])).split t

variable {c : Char} {piece t : Text}

/-- A character is looked for behind a text in which it does not occur. -/
theorem find?_char_append (h : c ∉ piece) :
    (Delimiter.ofText [c] (List.cons_ne_nil c [])).find? (piece ++ t) =
      ((Delimiter.ofText [c] (List.cons_ne_nil c [])).find? t).map (Delimiter.behind piece) := by
  apply Delimiter.find?_append
  intro u v he hv
  obtain ⟨d, v, rfl⟩ := List.exists_cons_of_ne_nil hv
  have hd : c ≠ d := by
    intro hd
    subst hd
    exact h (by simp [he])
  show ((if c = d then after? [] (v ++ t) else none).map fun rest => ((), rest)) = none
  rw [if_neg hd]
  rfl

/-- A piece ends at the first occurrence of the character. -/
theorem pieces_piece_append (h : c ∉ piece) : pieces c (piece ++ c :: t) = piece :: pieces c t := by
  apply Delimiter.split_of_find?_eq_some (a := ())
  have hread :
      (Delimiter.ofText [c] (List.cons_ne_nil c [])).read? (c :: t) = some ((), t) := by
    simp [Delimiter.ofText, after?]
  rw [find?_char_append h, Delimiter.find?_cons_of_some hread]
  simp [Delimiter.behind]

theorem pieces_of_not_mem (h : c ∉ piece) : pieces c piece = [piece] := by
  apply Delimiter.split_of_find?_eq_none
  rw [← List.append_nil piece, find?_char_append h]
  rfl

/-- A text is a piece, or a piece and the character in front of a text. -/
@[elab_as_elim]
theorem pieces_induction (c : Char) {P : Text → Prop} (last : ∀ piece, c ∉ piece → P piece)
    (more : ∀ piece rest, c ∉ piece → P rest → P (piece ++ c :: rest)) (t : Text) : P t := by
  -- the piece that has been begun takes up characters until `c` ends it
  suffices h : ∀ piece, c ∉ piece → P (piece ++ t) from h [] List.not_mem_nil
  induction t with
  | nil =>
    intro piece hpiece
    rw [List.append_nil]
    exact last piece hpiece
  | cons a t ih =>
    intro piece hpiece
    by_cases ha : a = c
    · subst ha
      exact more piece t hpiece (ih [] List.not_mem_nil)
    · have hlonger := ih (piece ++ [a]) (by simp [hpiece, Ne.symm ha])
      rwa [List.append_assoc] at hlonger

/-- What stands before an occurrence of the character is cut apart from what follows it. -/
theorem pieces_append_cons (c : Char) (s t : Text) :
    pieces c (s ++ c :: t) = pieces c s ++ pieces c t := by
  induction s using pieces_induction c with
  | last piece hpiece =>
    rw [pieces_piece_append hpiece, pieces_of_not_mem hpiece]
    rfl
  | more piece rest hpiece ih =>
    rw [List.append_assoc, List.cons_append, pieces_piece_append hpiece, ih,
      pieces_piece_append hpiece]
    rfl

/-! ## Lines -/

variable {line : Text}

/-- A line ends at the first newline. -/
theorem lines_append (h : '\n' ∉ line) : lines (line ++ '\n' :: t) = line :: lines t :=
  pieces_piece_append h

theorem lines_of_no_newline (h : '\n' ∉ line) : lines line = [line] :=
  pieces_of_not_mem h

end AnswerKey.Text
