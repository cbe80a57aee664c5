import AnswerKey.Proofs.Pattern.Lexeme

/-!
# Slashes behind backslashes

A slash is escaped if the run of backslashes before it is odd.  Escaping counts the backslashes of
the pattern and puts one in before each slash that has an even run before it.  The run in what has
been written is longer then, but the slash ends it: behind every character the runs in the pattern
and in what has been written have the same parity.
-/

namespace AnswerKey.Pattern

variable {c : Char} {s t before written : Text}

/-! ## Texts whose slashes are escaped -/

/-- Every slash of a text stands behind an odd run of backslashes, where `before` comes before the
text. -/
def SlashesEscapedAfter (before t : Text) : Prop :=
  ∀ front rest, t = front ++ '/' :: rest → backslashes (before ++ front) % 2 = 1

/-- Every slash of a text stands behind an odd run of backslashes. -/
def SlashesEscaped (t : Text) : Prop :=
  ∀ front rest, t = front ++ '/' :: rest → backslashes front % 2 = 1

theorem slashesEscapedAfter_of_not_mem (h : '/' ∉ t) : SlashesEscapedAfter before t := by
  rintro front rest rfl
  exact (h (by simp)).elim

theorem slashesEscapedAfter_cons : SlashesEscapedAfter before (c :: t) ↔
    (c = '/' → oddAfter before = true) ∧ SlashesEscapedAfter (before ++ [c]) t := by
  constructor
  · refine fun h => ⟨fun hc => ?_, fun front rest ht => ?_⟩
    · have hfirst := h [] t (hc ▸ rfl)
      rw [List.append_nil] at hfirst
      exact decide_eq_true hfirst
    · rw [List.append_assoc]
      exact h (c :: front) rest (congrArg (c :: ·) ht)
  · rintro ⟨hfirst, hrest⟩ front rest ht
    rcases List.cons_eq_append_iff.1 ht with ⟨rfl, hslash⟩ | ⟨front', rfl, ht'⟩
    · rw [List.append_nil]
      exact of_decide_eq_true (hfirst (List.cons.inj hslash).1.symm)
    · have hodd := hrest front' rest ht'
      rwa [List.append_assoc] at hodd

theorem slashesEscapedAfter_append : SlashesEscapedAfter before (s ++ t) ↔
    SlashesEscapedAfter before s ∧ SlashesEscapedAfter (before ++ s) t := by
  induction s generalizing before with
  | nil =>
    rw [List.append_nil]
    exact (and_iff_right (slashesEscapedAfter_of_not_mem List.not_mem_nil)).symm
  | cons c s ih =>
    rw [List.cons_append, slashesEscapedAfter_cons, slashesEscapedAfter_cons, ih, and_assoc,
      List.append_assoc]
    rfl

/-! ## One character -/

/-- What is written for a character, where `before` comes before it. -/
def slashImage (before : Text) (c : Char) : Text :=
  if c = '/' ∧ backslashes before % 2 = 0 then ['\\', c] else [c]

/-- A character is written as it is, unless it is a slash behind an even run. -/
theorem slashImage_cases (before : Text) (c : Char) :
    (c = '/' → oddAfter before = true) ∧ slashImage before c = [c] ∨
      c = '/' ∧ oddAfter before = false ∧ slashImage before c = ['\\', '/'] := by
  unfold slashImage oddAfter
  by_cases h : c = '/' ∧ backslashes before % 2 = 0
  · right
    rw [if_pos h, h.1]
    exact ⟨rfl, decide_eq_false (by omega), rfl⟩
  · left
    rw [if_neg h]
    refine ⟨fun hc => decide_eq_true ?_, rfl⟩
    have hodd : ¬ backslashes before % 2 = 0 := fun heven => h ⟨hc, heven⟩
    omega

/-- Each character is replaced by its image, and only the parity before it counts. -/
theorem escapeSlashesFrom_cons (before : Text) (c : Char) (t : Text) :
    escapeSlashesFrom (oddAfter before) (c :: t) =
      slashImage before c ++ escapeSlashesFrom (oddAfter (before ++ [c])) t := by
  rw [escapeSlashesFrom, ← oddAfter_append]
  rcases slashImage_cases before c with ⟨hodd, himage⟩ | ⟨rfl, heven, himage⟩
  · have hplain : ¬ (c = '/' && !oddAfter before) = true := by simpa using hodd
    rw [himage, if_neg hplain]
    rfl
  · rw [himage, heven]
    rfl

/-- The runs in a text and in what is written for it are both odd or both even. -/
theorem oddAfter_append_slashImage (h : oddAfter written = oddAfter before) :
    oddAfter (written ++ slashImage before c) = oddAfter (before ++ [c]) := by
  rcases slashImage_cases before c with ⟨-, himage⟩ | ⟨rfl, -, himage⟩
  · rw [himage, oddAfter_append, oddAfter_append, h]
  · -- a slash ends the run that has been made odd
    rw [himage, List.append_cons, oddAfter_append, oddAfter_append, oddAfter_append]
    rfl

/-- The image of a character holds no slash that is not escaped. -/
theorem slashesEscapedAfter_slashImage (h : oddAfter written = oddAfter before) :
    SlashesEscapedAfter written (slashImage before c) := by
  have hnil : ∀ before, SlashesEscapedAfter before [] := fun _ =>
    slashesEscapedAfter_of_not_mem List.not_mem_nil
  rcases slashImage_cases before c with ⟨hodd, himage⟩ | ⟨rfl, heven, himage⟩
  · rw [himage, slashesEscapedAfter_cons]
    exact ⟨fun hc => h.trans (hodd hc), hnil _⟩
  · rw [himage, slashesEscapedAfter_cons, slashesEscapedAfter_cons, oddAfter_append, h, heven]
    exact ⟨fun hc => absurd hc (by decide), fun _ => rfl, hnil _⟩

/-! ## All of them -/

/-- Behind the same parity all slashes of what is written are escaped. -/
theorem slashesEscapedAfter_escapeSlashesFrom (h : oddAfter written = oddAfter before) :
    SlashesEscapedAfter written (escapeSlashesFrom (oddAfter before) t) := by
  induction t generalizing written before with
  | nil => exact slashesEscapedAfter_of_not_mem List.not_mem_nil
  | cons c t ih =>
    rw [escapeSlashesFrom_cons, slashesEscapedAfter_append]
    exact ⟨slashesEscapedAfter_slashImage h, ih (oddAfter_append_slashImage h)⟩

/-- A text is left alone just if its slashes are all escaped. -/
theorem escapeSlashesFrom_eq_self_iff :
    escapeSlashesFrom (oddAfter before) t = t ↔ SlashesEscapedAfter before t := by
  induction t generalizing before with
  | nil => exact iff_of_true rfl (slashesEscapedAfter_of_not_mem List.not_mem_nil)
  | cons c t ih =>
    rw [escapeSlashesFrom_cons, slashesEscapedAfter_cons]
    rcases slashImage_cases before c with ⟨hodd, himage⟩ | ⟨rfl, heven, himage⟩
    · rw [himage, List.singleton_append, List.cons.injEq, ih]
      exact ⟨fun h => ⟨hodd, h.2⟩, fun h => ⟨rfl, h.2⟩⟩
    · rw [himage, heven]
      refine iff_of_false (fun h => absurd (List.cons.inj h).1 (by decide)) fun h => ?_
      exact Bool.false_ne_true (h.1 rfl)

/-- What is written for a text is what is written for its characters, each seen from where it stands
in the text. -/
theorem escapeSlashesFrom_eq_flatMap (before t : Text) :
    escapeSlashesFrom (oddAfter before) t = (t.zipIdx before.length).flatMap fun (c, i) =>
      slashImage ((before ++ t).take i) c := by
  induction t generalizing before with
  | nil => rfl
  | cons c t ih =>
    have hrest := ih (before ++ [c])
    rw [List.length_append, List.length_singleton, ← List.append_cons] at hrest
    rw [escapeSlashesFrom_cons, hrest, List.zipIdx_cons, List.flatMap_cons]
    simp only [List.take_left]

/-- A text whose slashes are escaped is left as it is, and escaping makes every text one: a
backslash goes before each slash that an even run precedes in the text, and nothing else changes.
The slashes of the whole expression for a pattern are those of its body. -/
theorem escapeSlashes_by_parity (t : Text) :
    SlashesEscaped (escapeSlashes t) ∧
      escapeSlashes t = (t.zipIdx.flatMap fun (c, i) =>
        if c = '/' ∧ backslashes (t.take i) % 2 = 0 then ['\\', c] else [c]) ∧
      escapeSlashes (escapeSlashes t) = escapeSlashes t ∧
      (escapeSlashes t = t ↔ SlashesEscaped t) ∧
      ∀ o pattern, SlashesEscaped (expand o pattern) := by
  have hescaped : ∀ t, SlashesEscaped (escapeSlashes t) := by
    intro t
    show SlashesEscapedAfter [] (escapeSlashesFrom (oddAfter []) t)
    exact slashesEscapedAfter_escapeSlashesFrom rfl
  have hself : ∀ t, escapeSlashes t = t ↔ SlashesEscaped t := by
    intro t
    show escapeSlashesFrom (oddAfter []) t = t ↔ SlashesEscapedAfter [] t
    exact escapeSlashesFrom_eq_self_iff
  refine ⟨hescaped t, escapeSlashesFrom_eq_flatMap [] t, (hself _).2 (hescaped t), hself t, ?_⟩
  intro o pattern
  -- the parenthesis before the body is no backslash, so the runs of the body are not longer for it
  have hfront : '/' ∉ flags o ++ "^(?:".toList := by
    unfold flags
    split <;> decide
  have hcolon : oddAfter (flags o ++ "^(?:".toList) = oddAfter [] := by
    unfold flags
    split <;> decide
  show SlashesEscapedAfter [] (expand o pattern)
  rw [expand, slashesEscapedAfter_append, slashesEscapedAfter_append, body]
  exact ⟨⟨slashesEscapedAfter_of_not_mem hfront, slashesEscapedAfter_escapeSlashesFrom hcolon⟩,
    slashesEscapedAfter_of_not_mem (by decide)⟩

/-- One backslash escapes a slash, two escape each other. -/
example : escapeSlashes "/\\/\\\\/".toList = "\\/\\/\\\\\\/".toList := by decide

end AnswerKey.Pattern
