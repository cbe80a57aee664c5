import AnswerKey.Text

/-!
# Runs of characters

A run that ends before the text does is the same run whatever is put behind the text.  Padding
around a text that neither begins nor ends with padding is what trimming takes off.
-/

namespace AnswerKey.Text

variable {p : Char → Bool} {t : Text}

/-- A run that ends inside a text ends there whatever comes behind the text. -/
theorem dropWhile_append_of_ne_nil (h : t.dropWhile p ≠ []) (w : Text) :
    (t ++ w).dropWhile p = t.dropWhile p ++ w := by
  rw [List.dropWhile_append, if_neg]
  rwa [List.isEmpty_iff]

/-- A run that ends inside a text is not made longer by what comes behind it. -/
theorem takeWhile_append_of_ne_nil (h : t.dropWhile p ≠ []) (w : Text) :
    (t ++ w).takeWhile p = t.takeWhile p := by
  have hlen := congrArg List.length (List.takeWhile_append_dropWhile (p := p) (l := t))
  have hpos := List.length_pos_iff.2 h
  rw [List.length_append] at hlen
  rw [List.takeWhile_append, if_neg]
  omega

/-! ## Padding -/

variable {c : Char} {pad : Text}

/-- Padding in front is trimmed away with the rest. -/
theorem trimStart_append (h : ∀ c ∈ pad, isPadding c = true) (t : Text) :
    trimStart (pad ++ t) = trimStart t :=
  List.dropWhile_append_of_pos h

/-- Where a text is not all padding, what comes behind it is kept. -/
theorem trimStart_append_of_cons {s : Text} (h : trimStart t = c :: s) (w : Text) :
    trimStart (t ++ w) = c :: (s ++ w) := by
  unfold trimStart at h ⊢
  rw [dropWhile_append_of_ne_nil (by simp [h]), h]
  rfl

theorem trimStart_append_of_nil (h : trimStart t = []) (w : Text) :
    trimStart (t ++ w) = trimStart w := by
  unfold trimStart at h ⊢
  rw [List.dropWhile_append, h]
  rfl

theorem trimStart_cons (h : isPadding c = false) (t : Text) : trimStart (c :: t) = c :: t := by
  unfold trimStart
  rw [List.dropWhile_cons_of_neg]
  simp [h]

theorem trimEnd_append (h : ∀ c ∈ pad, isPadding c = true) (t : Text) :
    trimEnd (t ++ pad) = trimEnd t := by
  unfold trimEnd
  rw [List.reverse_append, List.dropWhile_append_of_pos]
  intro c hc
  exact h c (List.mem_reverse.1 hc)

/-- A text ends as what stands at its end does. -/
theorem getLast?_append_of_ne_nil (h : t ≠ []) (s : Text) : (s ++ t).getLast? = t.getLast? := by
  rw [List.getLast?_append, List.getLast?_eq_some_getLast h, Option.some_or]

/-- A text with no padding at its end is left alone. -/
theorem trimEnd_of_getLast? (h : ∀ c ∈ t.getLast?, isPadding c = false) : trimEnd t = t := by
  rcases List.eq_nil_or_concat t with rfl | ⟨s, c, rfl⟩
  · rfl
  · have hc : isPadding c = false := h c (by simp)
    unfold trimEnd
    rw [List.concat_eq_append, List.reverse_append, List.reverse_singleton, List.singleton_append,
      List.dropWhile_cons_of_neg (by simp [hc])]
    simp

/-- Padding behind a text goes, and nothing else where the text neither begins nor ends with
padding. -/
theorem trim_append (hc : isPadding c = false) (hlast : ∀ d ∈ (c :: t).getLast?, isPadding d = false)
    (hpad : ∀ d ∈ pad, isPadding d = true) : trim (c :: t ++ pad) = c :: t := by
  unfold trim
  rw [List.cons_append, trimStart_cons hc, ← List.cons_append, trimEnd_append hpad,
    trimEnd_of_getLast? hlast]

end AnswerKey.Text
