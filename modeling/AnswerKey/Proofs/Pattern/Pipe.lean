import AnswerKey.Proofs.Pattern.Sign

/-!
# Pipes behind backslashes

A pipe is given room together with the backslash before it, however many backslashes come before
that one.  So an even number of them, which escape each other and not the pipe, protects it only if
there are none.
-/

namespace AnswerKey.Pattern

variable {o : Options} {c : Char} {k : Nat} {s t rest before after : Text}

/-! ## Cutting a text in front of a pipe or a backslash -/

/-- Escaping slashes begins anew behind a text that does not end in a backslash. -/
theorem escapeSlashesFrom_append {escaped : Bool} (hs : s = [] → escaped = false)
    (hlast : s.getLast? ≠ some '\\') (t : Text) :
    escapeSlashesFrom escaped (s ++ t) =
      escapeSlashesFrom escaped s ++ escapeSlashesFrom false t := by
  induction s generalizing escaped with
  | nil =>
    rw [hs rfl]
    rfl
  | cons c s ih =>
    have htail : s = [] → (decide (c = '\\') && !escaped) = false := by
      rintro rfl
      have hc : c ≠ '\\' := fun hc => hlast (hc ▸ rfl)
      simp [hc]
    have hlast' : s.getLast? ≠ some '\\' := by
      intro h
      rw [List.getLast?_cons, h] at hlast
      exact hlast rfl
    rw [List.cons_append, escapeSlashesFrom, escapeSlashesFrom, ih htail hlast']
    split <;> rfl

/-- Escaping slashes leaves the last character where it is. -/
theorem getLast?_escapeSlashesFrom (escaped : Bool) (t : Text) :
    (escapeSlashesFrom escaped t).getLast? = t.getLast? := by
  induction t generalizing escaped with
  | nil => rfl
  | cons c t ih =>
    rw [escapeSlashesFrom]
    split
    · rw [List.getLast?_cons_cons, List.getLast?_cons, ih, List.getLast?_cons]
    · rw [List.getLast?_cons, ih, List.getLast?_cons]

/-! ## A pipe and the backslashes before it -/

/-- Some backslashes and a pipe. -/
def pipeAfter (k : Nat) : Text :=
  List.replicate k '\\' ++ ['|']

/-- What becomes of a pipe and the backslashes before it: the last of them goes. -/
def pipeImage : Nat → Text
  | 0 => ['|']
  | k + 1 => List.replicate k '\\' ++ spacedPipe

/-- What would become of them if backslashes escaped each other in pairs: a pipe behind an even
number of them is not escaped, and stays. -/
def escapedPipeImage (k : Nat) : Text :=
  if k % 2 = 0 then pipeAfter k else List.replicate (k - 1) '\\' ++ spacedPipe

theorem pipeImage_eq_escapedPipeImage_iff : pipeImage k = escapedPipeImage k ↔ k = 0 ∨ k % 2 = 1 := by
  unfold escapedPipeImage
  split
  · next heven =>
    cases k with
    | zero => exact iff_of_true rfl (.inl rfl)
    | succ k =>
      -- the two differ in length
      refine iff_of_false (fun h => ?_) (by omega)
      have hroom : spacedPipe.length = 18 := by decide
      have hlength := congrArg List.length h
      rw [pipeImage, pipeAfter, List.length_append, List.length_append, List.length_replicate,
        List.length_replicate, hroom, List.length_singleton] at hlength
      omega
  · next hodd =>
    cases k with
    | zero => exact (hodd rfl).elim
    | succ k => exact iff_of_true rfl (.inr (by omega))

theorem escapeSlashesFrom_pipeAfter (escaped : Bool) (k : Nat) (t : Text) :
    escapeSlashesFrom escaped (pipeAfter k ++ t) = pipeAfter k ++ escapeSlashesFrom false t := by
  induction k generalizing escaped with
  | zero => rfl
  | succ k ih =>
    show escapeSlashesFrom escaped ('\\' :: (pipeAfter k ++ t)) = '\\' :: (pipeAfter k ++ _)
    rw [escapeSlashesFrom, ih]
    rfl

/-- Pairs of a backslash and a pipe are sought from the left, so only the last backslash counts. -/
theorem widen_pipeAfter (ho : o.widePipes = true) (k : Nat) (t : Text) :
    widen o (pipeAfter k ++ t) = pipeImage k ++ widen o t := by
  induction k with
  | zero => exact widen_of_none (by simp [sign?_eq_none_iff])
  | succ k ih =>
    -- only the last backslash has the pipe behind it
    cases k with
    | zero => exact widen_of_sign (sign?_append (g := .pipe) ho fun a ha => nomatch ha)
    | succ k =>
      have hnone : sign? o ('\\' :: (pipeAfter (k + 1) ++ t)) = none := by
        simp [sign?_eq_none_iff, pipeAfter, List.replicate_succ]
      show widen o ('\\' :: (pipeAfter (k + 1) ++ t)) = '\\' :: (pipeImage (k + 1) ++ _)
      rw [widen_of_none hnone, ih]

/-- A pipe that an option gives room to takes the backslash before it with it, and what stands
around it is expanded by itself. -/
theorem body_pipeAfter (ho : o.widePipes = true) (hbefore : before.getLast? ≠ some '\\')
    (k : Nat) (after : Text) :
    body o (before ++ (pipeAfter k ++ after)) = body o before ++ (pipeImage k ++ body o after) := by
  have harrow : ∀ a : Arrow, a.char ≠ '|' ∧ a.char ≠ '\\' := fun a => by cases a <;> decide
  have hlast : (escapeSlashes before).getLast? ≠ some '\\' := by
    rwa [escapeSlashes, getLast?_escapeSlashesFrom]
  have hcut : widen o (escapeSlashes before ++ (pipeAfter k ++ escapeSlashes after)) =
      widen o (escapeSlashes before) ++ widen o (pipeAfter k ++ escapeSlashes after) := by
    -- neither a pipe nor a backslash goes with what is before it, unless that is a backslash
    cases k with
    | zero => exact widen_append_cons (fun a => (harrow a).1) (fun _ => hlast) _
    | succ k => exact widen_append_cons (fun a => (harrow a).2) (fun _ => hlast) _
  have hescape : escapeSlashes (before ++ (pipeAfter k ++ after)) =
      escapeSlashes before ++ (pipeAfter k ++ escapeSlashes after) := by
    unfold escapeSlashes
    rw [escapeSlashesFrom_append (fun _ => rfl) hbefore, escapeSlashesFrom_pipeAfter]
  rw [body_eq_widen, hescape, hcut, widen_pipeAfter ho, ← body_eq_widen, ← body_eq_widen]

/-- The expression for a pattern with an image in it, what stands around the image expanded. -/
def around (o : Options) (before after image : Text) : Text :=
  flags o ++ "^(?:".toList ++ (body o before ++ (image ++ body o after)) ++ ")\\n?$".toList

theorem around_injective : Function.Injective (around o before after) := by
  intro image image' h
  unfold around at h
  exact List.append_cancel_right
    (List.append_cancel_left (List.append_cancel_left (List.append_cancel_right h)))

/-- With room for pipes, a pipe is left as it is only if no backslash is before it.  Any other loses
the last one of the backslashes before it and is given room, as an escaped pipe should, but also
where the backslashes escape each other. -/
theorem expand_pipeAfter (ho : o.widePipes = true) (hbefore : before.getLast? ≠ some '\\')
    (k : Nat) (after : Text) :
    expand o (before ++ (pipeAfter k ++ after)) = around o before after (pipeImage k) ∧
      (expand o (before ++ (pipeAfter k ++ after)) = around o before after (escapedPipeImage k) ↔
        k = 0 ∨ k % 2 = 1) := by
  have hexpand : expand o (before ++ (pipeAfter k ++ after)) =
      around o before after (pipeImage k) := by
    rw [expand, body_pipeAfter ho hbefore]
    rfl
  refine ⟨hexpand, ?_⟩
  rw [hexpand, around_injective.eq_iff, pipeImage_eq_escapedPipeImage_iff]

/-- Three backslashes escape the pipe behind them, and the pipe behind none is left. -/
theorem expand_pipeAfter_three :
    expand { widePipes := true } "a|\\\\\\|/".toList =
      around { widePipes := true } "a|".toList ['/'] (escapedPipeImage 3) := by
  have hbefore : "a|".toList.getLast? ≠ some '\\' := by decide
  exact (expand_pipeAfter rfl hbefore 3 ['/']).2.2 (.inr rfl)

/-- Of two backslashes that escape each other the second is taken for the escape of the pipe. -/
theorem pipeAfter_two_not_copied :
    ¬ pipeAfter 2 <:+: expand { widePipes := true } "a\\\\|b".toList := by
  decide +kernel

end AnswerKey.Pattern
