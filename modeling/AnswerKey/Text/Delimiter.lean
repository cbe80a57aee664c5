import AnswerKey.Text

/-!
# Delimiters

A delimiter is something that can be read off the front of a text and always
takes at least one character.  `find?` looks for its leftmost occurrence, and
`split` cuts a text at its occurrences, each sought behind the one before.
-/

namespace AnswerKey.Text

/-- A way to read a delimiter off the front of a text: what it carries, and what follows it. -/
structure Delimiter (α : Type) where
  read? : Text → Option (α × Text)
  shrinks : ∀ {t a rest}, read? t = some (a, rest) → rest.length < t.length

namespace Delimiter

variable {α : Type}

/-- The leftmost occurrence in a text: what stands before it, what it carries, what follows it. -/
def find? (d : Delimiter α) : Text → Option (Text × α × Text)
  | [] => none
  | c :: t =>
    match d.read? (c :: t) with
    | some (a, rest) => some ([], a, rest)
    | none => (d.find? t).map fun (before, a, rest) => (c :: before, a, rest)

theorem length_of_find? (d : Delimiter α) {t before rest : Text} {a : α}
    (h : d.find? t = some (before, a, rest)) : rest.length < t.length := by
  induction t generalizing before with
  | nil => simp [find?] at h
  | cons c t ih =>
    rw [find?] at h
    split at h
    · next hr =>
      have hlt := d.shrinks hr
      simp_all
    · obtain ⟨⟨before', a', rest'⟩, hf, he⟩ := Option.map_eq_some_iff.1 h
      obtain ⟨-, rfl, rfl⟩ := he
      have hlt := ih hf
      simp only [List.length_cons]
      omega

/-- The pieces of a text between the occurrences of a delimiter, one more than there are of it. -/
def split (d : Delimiter α) (t : Text) : List Text :=
  match _h : d.find? t with
  | none => [t]
  | some (before, _, rest) => before :: d.split rest
termination_by t.length
decreasing_by exact d.length_of_find? ‹_›

/-- A fixed text as a delimiter. -/
def ofText (s : Text) (hs : s ≠ []) : Delimiter Unit where
  read? t := (after? s t).map fun rest => ((), rest)
  shrinks := by
    intro t a rest h
    obtain ⟨rest', hr, he⟩ := Option.map_eq_some_iff.1 h
    have ht := after?_eq_some.1 hr
    have hpos := List.length_pos_iff.2 hs
    have hlen := congrArg List.length ht
    simp_all

end Delimiter

/-- The lines of a text, cut at its newlines. -/
def lines (t : Text) : List Text :=
  (Delimiter.ofText ['\n'] (by decide)).split t

end AnswerKey.Text
