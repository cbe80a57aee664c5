import AnswerKey.Proofs.Text.Piece
import AnswerKey.Proofs.Text.Run
import Mathlib.Data.List.DropRight

/-!
# Padding around a text and around its lines

Padding around a text is what trimming takes off, and what has been trimmed stays as it is.  If the
lines are trimmed as well, then padding beside a newline makes no difference either, as long as it
brings no newline of its own (`Loosened.trimmedLines_eq`).
-/

namespace AnswerKey.Text

variable {c : Char} {s t u v pad before behind : Text}

/-! ## Padding at the end -/

/-- Whether a text is made of padding only. -/
def isBlank (t : Text) : Bool :=
  t.all isPadding

theorem isBlank_append (hs : s.isBlank = true) (ht : t.isBlank = true) :
    (s ++ t).isBlank = true := by
  rw [isBlank, List.all_append, Bool.and_eq_true]
  exact ⟨hs, ht⟩

/-- A text is trimmed to nothing just if it is all padding. -/
theorem trimEnd_eq_nil_iff : trimEnd t = [] ↔ t.isBlank = true := by
  unfold trimEnd isBlank
  rw [List.reverse_eq_nil_iff, List.dropWhile_eq_nil_iff, List.all_eq_true]
  simp only [List.mem_reverse]

/-- Behind something that is not padding the end of a text is trimmed by itself. -/
theorem trimEnd_append_of_ne_nil (h : trimEnd t ≠ []) (s : Text) :
    trimEnd (s ++ t) = s ++ trimEnd t := by
  unfold trimEnd at h ⊢
  rw [List.reverse_append, dropWhile_append_of_ne_nil (List.reverse_ne_nil_iff.1 h),
    List.reverse_append, List.reverse_reverse]

/-- Padding behind a text is trimmed with its end. -/
theorem trimEnd_append_of_isBlank (h : t.isBlank = true) (s : Text) :
    trimEnd (s ++ t) = trimEnd s :=
  trimEnd_append (List.all_eq_true.1 h) s

/-- A text that ends in something other than padding keeps it, whatever is trimmed behind it. -/
theorem trimEnd_append_of_getLast (hlast : s.getLast? = some c) (hc : isPadding c = false)
    (t : Text) : trimEnd (s ++ t) = s ++ trimEnd t := by
  by_cases ht : trimEnd t = []
  · rw [trimEnd_append_of_isBlank (trimEnd_eq_nil_iff.1 ht), ht, List.append_nil,
      trimEnd_of_getLast? (by simpa [hlast] using hc)]
  · exact trimEnd_append_of_ne_nil ht s

theorem trimEnd_trimEnd (t : Text) : trimEnd (trimEnd t) = trimEnd t :=
  trimEnd_of_getLast? (getLast?_trimEnd t)

/-! ## Padding on both sides -/

theorem trimStart_eq_nil_iff : trimStart t = [] ↔ t.isBlank = true := by
  unfold trimStart isBlank
  rw [List.dropWhile_eq_nil_iff, List.all_eq_true]

/-- No padding is left at the start. -/
theorem isPadding_of_trimStart (h : trimStart t = c :: s) : isPadding c = false := by
  have hhead := List.head?_dropWhile_not isPadding t
  unfold trimStart at h
  rw [h] at hhead
  simpa using hhead

/-- Padding in front does not change what is left after trimming. -/
theorem trim_append_left (h : pad.isBlank = true) (t : Text) : trim (pad ++ t) = trim t := by
  unfold trim
  rw [trimStart_append (List.all_eq_true.1 h)]

theorem trim_append_right (h : pad.isBlank = true) (t : Text) : trim (t ++ pad) = trim t := by
  unfold trim
  cases hstart : trimStart t with
  | nil => rw [trimStart_append_of_nil hstart, trimStart_eq_nil_iff.2 h]
  | cons c s =>
    rw [trimStart_append_of_cons hstart, ← List.cons_append, trimEnd_append_of_isBlank h]

/-- Where something other than padding stands on both sides, what is between stays as it is. -/
theorem trim_append_append (hu : ¬ u.isBlank = true) (hv : ¬ v.isBlank = true) (t : Text) :
    trim (u ++ t ++ v) = trimStart u ++ t ++ trimEnd v := by
  have hstart : trimStart (u ++ t ++ v) = trimStart u ++ (t ++ v) := by
    rw [List.append_assoc]
    exact dropWhile_append_of_ne_nil (fun h => hu (trimStart_eq_nil_iff.1 h)) (t ++ v)
  rw [trim, hstart, ← List.append_assoc,
    trimEnd_append_of_ne_nil fun h => hv (trimEnd_eq_nil_iff.1 h)]

theorem trim_trimStart (t : Text) : trim (trimStart t) = trim t := by
  unfold trim trimStart
  rw [List.dropWhile_idempotent]

/-- What has been trimmed stays as it is. -/
theorem trim_trim (t : Text) : trim (trim t) = trim t := by
  cases hstart : trimStart t with
  | nil =>
    have htrim : trim t = [] := by
      rw [trim, hstart]
      rfl
    rw [htrim]
    rfl
  | cons c s =>
    -- the first character is not padding, so it stays in front of whatever is trimmed at the end
    have hc : isPadding c = false := isPadding_of_trimStart hstart
    have hkeep : ∀ r, trimEnd (c :: r) = c :: trimEnd r :=
      fun r => trimEnd_append_of_getLast (s := [c]) rfl hc r
    have htrim : trim t = c :: trimEnd s := by rw [trim, hstart, hkeep]
    rw [htrim, trim, trimStart_cons hc, hkeep, trimEnd_trimEnd]

/-! ## Padding beside a newline -/

/-- Padding that does not end a line. -/
structure IsInset (pad : Text) : Prop where
  isBlank : pad.isBlank = true
  no_newline : '\n' ∉ pad

/-- A newline divides the lines before it from those behind it. -/
theorem lines_append_newline (s t : Text) : lines (s ++ '\n' :: t) = lines s ++ lines t :=
  pieces_append_cons '\n' s t

/-- Padding in front of a text stands in front of its first line. -/
theorem IsInset.map_trim_lines_append_left (h : IsInset pad) (t : Text) :
    (lines (pad ++ t)).map trim = (lines t).map trim := by
  induction t using pieces_induction '\n' with
  | last line hline =>
    have hpad : '\n' ∉ pad ++ line := by simp [h.no_newline, hline]
    rw [lines_of_no_newline hpad, lines_of_no_newline hline, List.map_singleton, List.map_singleton,
      trim_append_left h.isBlank]
  | more line rest hline _ =>
    have hpad : '\n' ∉ pad ++ line := by simp [h.no_newline, hline]
    rw [← List.append_assoc, lines_append hpad, lines_append hline, List.map_cons, List.map_cons,
      trim_append_left h.isBlank]

/-- Padding behind a text stands behind its last line. -/
theorem IsInset.map_trim_lines_append_right (h : IsInset pad) (t : Text) :
    (lines (t ++ pad)).map trim = (lines t).map trim := by
  induction t using pieces_induction '\n' with
  | last line hline =>
    have hpad : '\n' ∉ line ++ pad := by simp [h.no_newline, hline]
    rw [lines_of_no_newline hpad, lines_of_no_newline hline, List.map_singleton, List.map_singleton,
      trim_append_right h.isBlank]
  | more line rest hline ih =>
    rw [List.append_assoc, List.cons_append, lines_append hline, lines_append hline, List.map_cons,
      List.map_cons, ih]

/-- The lines of a text without the padding around it, each without the padding around it. -/
def trimmedLines (t : Text) : List Text :=
  (lines (trim t)).map trim

/-- Padding beside one newline makes no difference. -/
theorem trimmedLines_newline (hbefore : IsInset before) (hbehind : IsInset behind) (u v : Text) :
    trimmedLines (u ++ before ++ '\n' :: (behind ++ v)) = trimmedLines (u ++ '\n' :: v) := by
  have hnewline : isBlank ['\n'] = true := rfl
  have hgap : (before ++ '\n' :: behind).isBlank = true :=
    isBlank_append hbefore.isBlank (isBlank_append hnewline hbehind.isBlank)
  have hwide : u ++ before ++ '\n' :: (behind ++ v) = u ++ (before ++ '\n' :: behind) ++ v := by simp
  have hnarrow : u ++ '\n' :: v = u ++ ['\n'] ++ v := by simp
  rw [trimmedLines, trimmedLines, hwide, hnarrow]
  by_cases hu : u.isBlank = true
  · -- the newline is part of the padding in front
    rw [trim_append_left (isBlank_append hu hgap), trim_append_left (isBlank_append hu hnewline)]
  · by_cases hv : v.isBlank = true
    · -- the newline is part of the padding behind
      rw [trim_append_right hv, trim_append_right hv, trim_append_right hgap,
        trim_append_right hnewline]
    · -- the newline stays, and so does the padding beside it until the lines are trimmed
      have hcut : trimStart u ++ (before ++ '\n' :: behind) ++ trimEnd v =
          (trimStart u ++ before) ++ '\n' :: (behind ++ trimEnd v) := by simp
      have hcut' : trimStart u ++ ['\n'] ++ trimEnd v = trimStart u ++ '\n' :: trimEnd v := by simp
      rw [trim_append_append hu hv, trim_append_append hu hv, hcut, hcut', lines_append_newline,
        lines_append_newline, List.map_append, List.map_append,
        hbefore.map_trim_lines_append_right, hbehind.map_trim_lines_append_left]

/-- The second text is the first one with padding put in before and behind some of its newlines. -/
inductive Loosened : Text → Text → Prop
  | nil : Loosened [] []
  | char (c : Char) {s t : Text} (rest : Loosened s t) : Loosened (c :: s) (c :: t)
  | newline {before behind s t : Text} (hbefore : IsInset before) (hbehind : IsInset behind)
      (rest : Loosened s t) : Loosened ('\n' :: s) (before ++ '\n' :: (behind ++ t))

/-- Padding beside newlines makes no difference once the lines are trimmed. -/
theorem Loosened.trimmedLines_eq (h : Loosened s t) : trimmedLines t = trimmedLines s := by
  -- newlines are treated one by one, the part of the text in front having been dealt with
  suffices hfront : ∀ u, trimmedLines (u ++ t) = trimmedLines (u ++ s) from hfront []
  induction h with
  | nil => exact fun u => rfl
  | char c _ ih =>
    intro u
    have hnext := ih (u ++ [c])
    rwa [List.append_assoc, List.append_assoc] at hnext
  | @newline before behind s t hbefore hbehind _ ih =>
    intro u
    have hnext := ih (u ++ before ++ '\n' :: behind)
    have hcut : ∀ r, u ++ before ++ '\n' :: behind ++ r = u ++ before ++ '\n' :: (behind ++ r) := by
      simp
    rw [hcut, hcut, trimmedLines_newline hbefore hbehind u s] at hnext
    rw [← List.append_assoc, hnext]

/-- A carriage return before every newline. -/
def withReturns (t : Text) : Text :=
  t.flatMap fun c => if c = '\n' then ['\r', '\n'] else [c]

/-- A text with returns before its newlines is a loosened one. -/
theorem loosened_withReturns (t : Text) : Loosened t (withReturns t) := by
  induction t with
  | nil => exact .nil
  | cons c t ih =>
    by_cases hc : c = '\n'
    · subst hc
      have hreturn : IsInset ['\r'] := ⟨rfl, by decide⟩
      have hnothing : IsInset [] := ⟨rfl, by decide⟩
      exact .newline hreturn hnothing ih
    · have hcons : withReturns (c :: t) = c :: withReturns t := by
        rw [withReturns, List.flatMap_cons, if_neg hc]
        rfl
      rw [hcons]
      exact .char c ih

end AnswerKey.Text
