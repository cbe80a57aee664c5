import AnswerKey.Text.Delimiter

/-!
# Brackets between patterns

Inside a block, `]]` and `[[` with spaces and newlines between them divide two
patterns; `]]` and a run of letters between slashes end the block.
-/

namespace AnswerKey.Bracket

/-- Spaces and newlines, the only characters that may stand between brackets. -/
def isGap (c : Char) : Bool :=
  c == ' ' || c == '\n'

/-- What follows closing brackets and a gap. -/
def afterGap? (t : Text) : Option Text :=
  match t with
  | ']' :: ']' :: rest => some (rest.dropWhile isGap)
  | _ => none

/-- The letters of a block's end, and what follows it. -/
def readClosing? (t : Text) : Option (Text × Text) :=
  match afterGap? t with
  | some ('/' :: rest) =>
    match rest.dropWhile Char.isAlpha with
    | '/' :: rest' => some (rest.takeWhile Char.isAlpha, rest')
    | _ => none
  | _ => none

/-- What follows the boundary between two patterns. -/
def readBoundary? (t : Text) : Option (Unit × Text) :=
  match afterGap? t with
  | some ('[' :: '[' :: rest) => some ((), rest)
  | _ => none

theorem length_of_afterGap? {t rest : Text} (h : afterGap? t = some rest) :
    rest.length + 2 ≤ t.length := by
  unfold afterGap? at h
  split at h
  · next tail =>
    cases h
    have hle := (List.dropWhile_sublist isGap (l := tail)).length_le
    simp only [List.length_cons]
    omega
  · cases h

/-- The end of a block, which carries its letters. -/
def closing : Text.Delimiter Text where
  read? := readClosing?
  shrinks := by
    intro t a rest h
    unfold readClosing? at h
    split at h
    · next tail hgap =>
      split at h
      · next rest' hslash =>
        cases h
        have hle := (List.dropWhile_sublist Char.isAlpha (l := tail)).length_le
        have hlen := length_of_afterGap? hgap
        simp_all only [List.length_cons]
        omega
      · cases h
    · cases h

/-- The boundary between two patterns of a block. -/
def boundary : Text.Delimiter Unit where
  read? := readBoundary?
  shrinks := by
    intro t a rest h
    unfold readBoundary? at h
    split at h
    · next tail hgap =>
      cases h
      have hlen := length_of_afterGap? hgap
      simp only [List.length_cons] at hlen
      omega
    · cases h

end AnswerKey.Bracket
