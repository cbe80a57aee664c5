import AnswerKey.Pattern
import Mathlib.Tactic.Common

/-!
# Signs with room

The options give room to signs of five kinds, one pass over the pattern for each kind.  No pass puts
in a sign that a later one finds, so one scan that takes the signs from the left does the same.
Slashes can be escaped before the scan as well as after it.
-/

namespace AnswerKey

/-- A redirection sign. -/
inductive Arrow where
  | left | right
deriving DecidableEq, Repr

/-- The character of a redirection sign. -/
def Arrow.char : Arrow → Char
  | left => '<'
  | right => '>'

/-- What the options can give room to. -/
inductive Sign where
  | space | semicolon
  /-- A pipe with a backslash before it. -/
  | pipe
  | redirect (a : Arrow)
  /-- Two redirection signs, one right behind the other. -/
  | doubled (a : Arrow)
deriving DecidableEq, Repr

namespace Sign

/-- The sign as it is written. -/
def text : Sign → Text
  | space => [' ']
  | semicolon => [';']
  | pipe => ['\\', '|']
  | redirect a => [a.char]
  | doubled a => [a.char, a.char]

/-- The sign with room around it or in its place. -/
def room : Sign → Text
  | space => Pattern.someBlanks
  | semicolon => Pattern.spacedSemicolon
  | pipe => Pattern.spacedPipe
  | redirect a => Pattern.spacedRedirect [a.char]
  | doubled a => Pattern.spacedRedirect [a.char, a.char]

theorem text_ne_nil (g : Sign) : g.text ≠ [] := by
  cases g <;> exact List.cons_ne_nil _ _

end Sign

/-- Whether the options give room to a sign. -/
def Options.widens (o : Options) : Sign → Bool
  | .space => o.wideSpaces
  | .semicolon => o.widePipes
  | .pipe => o.widePipes
  | .redirect _ => o.wideRedirects
  | .doubled _ => o.wideRedirects

/-- The options with room for signs switched on or off. -/
def Options.withRoom (o : Options) (spaces pipes redirects : Bool) : Options :=
  { o with wideSpaces := spaces, widePipes := pipes, wideRedirects := redirects }

namespace Pattern

variable {o : Options} {g : Sign} {a : Arrow} {c : Char} {t u rest : Text}

/-- The sign that a text begins with, if the options give room to it, and what follows.  Two signs
are taken together where they can be. -/
def sign? (o : Options) : Text → Option (Sign × Text)
  | ' ' :: t => if o.widens .space then some (.space, t) else none
  | ';' :: t => if o.widens .semicolon then some (.semicolon, t) else none
  | '\\' :: '|' :: t => if o.widens .pipe then some (.pipe, t) else none
  | '<' :: '<' :: t => if o.widens (.doubled .left) then some (.doubled .left, t) else none
  | '>' :: '>' :: t => if o.widens (.doubled .right) then some (.doubled .right, t) else none
  | '<' :: t => if o.widens (.redirect .left) then some (.redirect .left, t) else none
  | '>' :: t => if o.widens (.redirect .right) then some (.redirect .right, t) else none
  | _ => none

/-- What follows a sign, if another one of its kind could not be taken together with it. -/
def Apart (g : Sign) (rest : Text) : Prop :=
  ∀ a, g = .redirect a → rest.head? ≠ some a.char

/-- A sign that is read is written at the front, has room and goes no further. -/
theorem sign?_eq_some (h : sign? o t = some (g, rest)) :
    o.widens g = true ∧ t = g.text ++ rest ∧ Apart g rest := by
  revert h
  fun_cases sign? o t <;> intro h
  case case1 t hg | case3 t hg | case5 t hg | case7 t hg | case9 t hg =>
    cases h
    exact ⟨hg, rfl, fun a ha => nomatch ha⟩
  -- a sign by itself: the pattern for two of them has been tried before
  case case11 t hnext hg | case13 t hnext hg =>
    cases h
    refine ⟨hg, rfl, fun a ha hhead => ?_⟩
    cases ha
    obtain ⟨t, rfl⟩ := List.head?_eq_some_iff.1 hhead
    exact hnext t rfl
  all_goals cases h

/-- A sign with room is read off where it is written, unless a longer one is there. -/
theorem sign?_append (hg : o.widens g = true) (h : Apart g rest) :
    sign? o (g.text ++ rest) = some (g, rest) := by
  cases g with
  | redirect a =>
    cases rest with
    | nil => cases a <;> exact if_pos hg
    | cons c rest =>
      have hc : c ≠ a.char := fun hc => h a rfl (congrArg some hc)
      cases a <;> simp_all [sign?, Sign.text, Arrow.char]
  | doubled a => cases a <;> exact if_pos hg
  | _ => exact if_pos hg

/-- The options give no room at a place where none of the characters of signs stands, and where one
does they say so. -/
theorem sign?_eq_none_iff : sign? o (c :: t) = none ↔
    (c = ' ' → o.wideSpaces = false) ∧ (c = ';' → o.widePipes = false) ∧
      (c = '\\' → t.head? = some '|' → o.widePipes = false) ∧
        (c = '<' ∨ c = '>' → o.wideRedirects = false) := by
  unfold sign?
  split
  -- none of the characters that signs begin with
  case h_8 hspace hsemicolon hpipe _ _ hleft hright =>
    refine ⟨fun _ => ⟨?_, ?_, ?_, ?_⟩, fun _ => rfl⟩
    · intro hc
      exact (hspace t (hc ▸ rfl)).elim
    · intro hc
      exact (hsemicolon t (hc ▸ rfl)).elim
    · intro hc hhead
      obtain ⟨t, rfl⟩ := List.head?_eq_some_iff.1 hhead
      exact (hpipe t (hc ▸ rfl)).elim
    · intro hc
      rcases hc with rfl | rfl
      · exact (hleft t rfl).elim
      · exact (hright t rfl).elim
  -- one of them, where it is for the options to decide
  all_goals
    next he =>
    obtain ⟨rfl, rfl⟩ := List.cons.inj he
    rw [ite_eq_right_iff]
    simp [Options.widens]

/-- A sign takes a character at least. -/
theorem length_of_sign? (h : sign? o t = some (g, rest)) : rest.length < t.length := by
  obtain ⟨-, rfl, -⟩ := sign?_eq_some h
  have hpos := List.length_pos_iff.2 g.text_ne_nil
  rw [List.length_append]
  omega

/-- The text with room for the signs in it, taken from the left. -/
def widen (o : Options) (t : Text) : Text :=
  match _h : sign? o t with
  | some (g, rest) => g.room ++ widen o rest
  | none =>
    match t with
    | [] => []
    | c :: t => c :: widen o t
termination_by t.length
decreasing_by
  · exact length_of_sign? ‹_›
  · simp

/-- A sign is replaced by its room. -/
theorem widen_of_sign (h : sign? o t = some (g, rest)) : widen o t = g.room ++ widen o rest := by
  rw [widen]
  split
  · next h' =>
    rw [h] at h'
    cases h'
    rfl
  · next h' =>
    rw [h] at h'
    cases h'

/-- A character that is no sign stays. -/
theorem widen_of_none (h : sign? o (c :: t) = none) : widen o (c :: t) = c :: widen o t := by
  rw [widen]
  split
  · next h' =>
    rw [h] at h'
    cases h'
  · rfl

@[simp] theorem widen_nil : widen o [] = [] := by
  rw [widen]
  rfl

/-! ## One scan for all passes -/

/-- The passes for the signs that the options give room to. -/
def passes (o : Options) (t : Text) : Text :=
  let t := if o.wideSpaces then widenSpaces t else t
  let t := if o.widePipes then widenPipes (widenSemicolons t) else t
  if o.wideRedirects then widenRedirects t else t

/-- A text begins as it did before a pass, unless what has been put in is at its start. -/
def KeepsHead (f : Text → Text) : Prop :=
  ∀ t c, c ≠ '(' → (f t).head? = some c → t.head? = some c

/-- A pass that replaces one character begins a text with a parenthesis or leaves its start. -/
theorem keepsHead_flatMap (d : Char) {room : Text} (hroom : room.head? = some '(') :
    KeepsHead fun t => t.flatMap fun c => if c = d then room else [c] := by
  intro t c hc h
  cases t with
  | nil => exact h
  | cons b t =>
    simp only [List.flatMap_cons] at h
    split at h
    · obtain ⟨rest, rfl⟩ := List.head?_eq_some_iff.1 hroom
      exact (hc (Option.some.inj h).symm).elim
    · exact h

/-- Escaped pipes are replaced from their backslash on. -/
theorem keepsHead_widenPipes : KeepsHead widenPipes := by
  intro t c hc h
  fun_cases widenPipes t
  · exact h
  · exact (hc (Option.some.inj h).symm).elim
  · next b t hpipe =>
    rw [widenPipes] at h
    · exact h
    · exact hpipe

/-- What two passes leave of the start of a text one after the other leaves as well. -/
theorem KeepsHead.comp {f g : Text → Text} (hf : KeepsHead f) (hg : KeepsHead g) :
    KeepsHead fun t => f (g t) :=
  fun t c hc h => hg t c hc (hf (g t) c hc h)

theorem KeepsHead.ite {f : Text → Text} (hf : KeepsHead f) (on : Bool) :
    KeepsHead fun t => if on then f t else t := by
  cases on with
  | false => exact fun _ _ _ h => h
  | true => exact hf

theorem keepsHead_widenSpaces : KeepsHead widenSpaces :=
  keepsHead_flatMap ' ' rfl

theorem keepsHead_widenSemicolons : KeepsHead widenSemicolons :=
  keepsHead_flatMap ';' rfl

/-- A pass over single characters leaves the others. -/
theorem flatMap_cons_of_ne {d : Char} {room : Text} (h : c ≠ d) :
    ((c :: t).flatMap fun c => if c = d then room else [c]) =
      c :: t.flatMap fun c => if c = d then room else [c] := by
  rw [List.flatMap_cons, if_neg h]
  rfl

/-- A backslash without a pipe behind it is left by the pass for pipes. -/
theorem widenPipes_cons (h : c = '\\' → t.head? ≠ some '|') :
    widenPipes (c :: t) = c :: widenPipes t := by
  rw [widenPipes]
  intro rest hc he
  exact h hc (he ▸ rfl)

/-- A redirection that is not doubled is given room by itself. -/
theorem widenRedirects_redirect (h : t.head? ≠ some a.char) :
    widenRedirects (a.char :: t) = spacedRedirect [a.char] ++ widenRedirects t := by
  cases t with
  | nil => cases a <;> rfl
  | cons c t =>
    have hc : c ≠ a.char := fun hc => h (congrArg some hc)
    cases a <;> simp_all [widenRedirects, Arrow.char]

theorem widenRedirects_cons (h : ¬ (c = '<' ∨ c = '>')) :
    widenRedirects (c :: t) = c :: widenRedirects t := by
  rw [not_or] at h
  rw [widenRedirects]
  · exact fun _ hc => (h.1 hc).elim
  · exact fun _ hc => (h.2 hc).elim
  · exact h.1
  · exact h.2

/-- What the passes before the one for redirections leave of a text. -/
theorem keepsHead_earlier (spaces pipes : Bool) : KeepsHead fun t =>
    let t := if spaces then widenSpaces t else t
    if pipes then widenPipes (widenSemicolons t) else t :=
  ((keepsHead_widenPipes.comp keepsHead_widenSemicolons).ite pipes).comp
    (keepsHead_widenSpaces.ite spaces)

/-- All passes together replace a sign by its room: none of them touches what another has put in. -/
theorem passes_sign (hg : o.widens g = true) (h : Apart g rest) :
    passes o (g.text ++ rest) = g.room ++ passes o rest := by
  obtain ⟨i, d, pipes, redirects, any, spaces, trim⟩ := o
  cases g with
  | space =>
    cases hg
    cases pipes <;> cases redirects <;> rfl
  | semicolon =>
    cases hg
    cases spaces <;> cases redirects <;> rfl
  | pipe =>
    cases hg
    cases spaces <;> cases redirects <;> rfl
  | doubled a =>
    cases hg
    cases a <;> cases spaces <;> cases pipes <;> rfl
  | redirect a =>
    cases hg
    have hparen : a.char ≠ '(' := by cases a <;> decide
    have hhead := mt (keepsHead_earlier spaces pipes rest a.char hparen) (h a rfl)
    refine Eq.trans ?_ (widenRedirects_redirect hhead)
    cases a <;> cases spaces <;> cases pipes <;> rfl

/-- A character that is no sign is left by all passes. -/
theorem passes_cons (h : sign? o (c :: t) = none) : passes o (c :: t) = c :: passes o t := by
  obtain ⟨hspace, hsemicolon, hpipe, hredirect⟩ := sign?_eq_none_iff.1 h
  have hspaces : (if o.wideSpaces then widenSpaces (c :: t) else c :: t) =
      c :: if o.wideSpaces then widenSpaces t else t := by
    by_cases hon : o.wideSpaces = true
    · rw [if_pos hon, if_pos hon]
      refine flatMap_cons_of_ne fun hc => ?_
      simp [hspace hc] at hon
    · rw [if_neg hon, if_neg hon]
  -- the earlier passes keep what stands at the start of the rest
  have hpipes : ∀ u : Text, (u.head? = some '|' → t.head? = some '|') →
      (if o.widePipes then widenPipes (widenSemicolons (c :: u)) else c :: u) =
        c :: if o.widePipes then widenPipes (widenSemicolons u) else u := by
    intro u hu
    by_cases hon : o.widePipes = true
    · have hsemicolons : widenSemicolons (c :: u) = c :: widenSemicolons u := by
        refine flatMap_cons_of_ne fun hc => ?_
        simp [hsemicolon hc] at hon
      rw [if_pos hon, if_pos hon, hsemicolons]
      refine widenPipes_cons fun hc hhead => ?_
      have hbar := hu (keepsHead_widenSemicolons u '|' (by decide) hhead)
      simp [hpipe hc hbar] at hon
    · rw [if_neg hon, if_neg hon]
  unfold passes
  simp only
  rw [hspaces, hpipes _ ((keepsHead_widenSpaces.ite o.wideSpaces) t '|' (by decide))]
  by_cases hon : o.wideRedirects = true
  · rw [if_pos hon, if_pos hon]
    refine widenRedirects_cons fun hc => ?_
    simp [hredirect hc] at hon
  · rw [if_neg hon, if_neg hon]

theorem passes_nil (o : Options) : passes o [] = [] := by
  obtain ⟨i, d, pipes, redirects, any, spaces, trim⟩ := o
  cases spaces <;> cases pipes <;> cases redirects <;> rfl

/-- One pass after the other comes to the same as one scan. -/
theorem passes_eq_widen (o : Options) (t : Text) : passes o t = widen o t := by
  fun_induction widen o t with
  | case1 t g rest h ih =>
    obtain ⟨hg, rfl, hapart⟩ := sign?_eq_some h
    rw [passes_sign hg hapart, ih]
  | case2 h => exact passes_nil o
  | case3 c t h ih => rw [passes_cons h, ih]

/-! ## Slashes -/

/-- There are no slashes in the room for a sign, and it ends a run of backslashes. -/
theorem escapeSlashesFrom_room (g : Sign) (escaped : Bool) (t : Text) :
    escapeSlashesFrom escaped (g.room ++ t) = g.room ++ escapeSlashesFrom false t := by
  cases escaped
  all_goals
    rcases g with _ | _ | _ | a | a
    all_goals first
      | rfl
      | cases a <;> rfl

/-- There are no slashes in a sign, and it ends a run of backslashes. -/
theorem escapeSlashesFrom_text (g : Sign) (escaped : Bool) (t : Text) :
    escapeSlashesFrom escaped (g.text ++ t) = g.text ++ escapeSlashesFrom false t := by
  cases escaped
  all_goals
    rcases g with _ | _ | _ | a | a
    all_goals first
      | rfl
      | cases a <;> rfl

/-- Escaping begins a text with a backslash or leaves its start. -/
theorem head?_escapeSlashesFrom {escaped : Bool} (hc : c ≠ '\\')
    (h : (escapeSlashesFrom escaped t).head? = some c) : t.head? = some c := by
  cases t with
  | nil => exact h
  | cons b t =>
    rw [escapeSlashesFrom] at h
    split at h
    · exact (hc (Option.some.inj h).symm).elim
    · exact h

/-- Slashes can be escaped before signs are given room or after that. -/
theorem escapeSlashesFrom_widen (o : Options) (escaped : Bool) (t : Text) :
    escapeSlashesFrom escaped (widen o t) = widen o (escapeSlashesFrom escaped t) := by
  fun_induction widen o t generalizing escaped with
  | case1 t g rest h ih =>
    obtain ⟨hg, rfl, hapart⟩ := sign?_eq_some h
    -- escaping puts no arrow behind the sign
    have hapart' : Apart g (escapeSlashesFrom false rest) := by
      intro a ha hhead
      exact hapart a ha (head?_escapeSlashesFrom (by cases a <;> decide) hhead)
    rw [escapeSlashesFrom_room, ih, escapeSlashesFrom_text, widen_of_sign (sign?_append hg hapart')]
  | case2 h => exact widen_nil.symm
  | case3 c t h ih =>
    have hrest : ∀ e, sign? o (c :: escapeSlashesFrom e t) = none := by
      intro e
      obtain ⟨hspace, hsemicolon, hpipe, hredirect⟩ := sign?_eq_none_iff.1 h
      refine sign?_eq_none_iff.2 ⟨hspace, hsemicolon, fun hc hhead => ?_, hredirect⟩
      exact hpipe hc (head?_escapeSlashesFrom (by decide) hhead)
    rw [escapeSlashesFrom, escapeSlashesFrom]
    split
    -- the backslash that is put in stands before a slash, not before a pipe
    · next hslash =>
      obtain rfl : c = '/' := by simp_all
      have hbackslash : ∀ u, sign? o ('\\' :: '/' :: u) = none := by
        intro u
        simp [sign?_eq_none_iff]
      rw [widen_of_none (hbackslash _), widen_of_none (hrest _), ih]
    · rw [widen_of_none (hrest _), ih]

/-- The signs are given room after the slashes have been escaped just as well. -/
theorem body_eq_widen (o : Options) (p : Text) : body o p = widen o (escapeSlashes p) := by
  rw [escapeSlashes, ← escapeSlashesFrom_widen, ← passes_eq_widen]
  rfl

/-! ## The whole expression -/

/-- The options without any room. -/
def bare (o : Options) : Options :=
  o.withRoom false false false

/-- A text without the characters of signs is left as it is. -/
theorem widen_append_of_not_mem (hu : ∀ c ∈ u, c ∉ [' ', ';', '\\', '<', '>']) (t : Text) :
    widen o (u ++ t) = u ++ widen o t := by
  induction u with
  | nil => rfl
  | cons c u ih =>
    obtain ⟨hc, hu⟩ := List.forall_mem_cons.1 hu
    have hnone : sign? o (c :: (u ++ t)) = none := by
      rw [sign?_eq_none_iff]
      simp_all
    rw [List.cons_append, widen_of_none hnone, ih hu]
    rfl

theorem head?_append_cons {d : Char} {v : Text} (hc : c ≠ d) (h : (t ++ d :: v).head? = some c) :
    t.head? = some c := by
  cases t with
  | nil => exact (hc (Option.some.inj h).symm).elim
  | cons b t => exact h

/-- No sign goes on into a character that is no redirection, a pipe behind a backslash aside. -/
theorem widen_append_cons {d : Char} (hd : ∀ a : Arrow, a.char ≠ d)
    (hlast : d = '|' → t.getLast? ≠ some '\\') (v : Text) :
    widen o (t ++ d :: v) = widen o t ++ widen o (d :: v) := by
  fun_induction widen o t with
  | case1 t g rest h ih =>
    obtain ⟨hg, rfl, hapart⟩ := sign?_eq_some h
    -- what is appended is no arrow either
    have hapart' : Apart g (rest ++ d :: v) := by
      intro a ha hhead
      exact hapart a ha (head?_append_cons (hd a) hhead)
    have hrest : d = '|' → rest.getLast? ≠ some '\\' := by
      intro hbar hbackslash
      apply hlast hbar
      rw [List.getLast?_append, hbackslash, Option.some_or]
    rw [List.append_assoc, widen_of_sign (sign?_append hg hapart'), ih hrest, List.append_assoc]
  | case2 h => rfl
  | case3 c t h ih =>
    have hrest : d = '|' → t.getLast? ≠ some '\\' := by
      intro hbar hbackslash
      apply hlast hbar
      rw [List.getLast?_cons, hbackslash, Option.getD_some]
    have hnone : sign? o (c :: (t ++ d :: v)) = none := by
      obtain ⟨hspace, hsemicolon, hpipe, hredirect⟩ := sign?_eq_none_iff.1 h
      refine sign?_eq_none_iff.2 ⟨hspace, hsemicolon, fun hc hhead => ?_, hredirect⟩
      by_cases hbar : d = '|'
      · -- the pipe stands behind the backslash only if nothing is between them
        cases t with
        | nil => exact (hlast hbar (congrArg some hc)).elim
        | cons b t => exact hpipe hc hhead
      · exact hpipe hc (head?_append_cons (Ne.symm hbar) hhead)
    rw [List.cons_append, widen_of_none hnone, ih hrest, List.cons_append]

/-- A closing parenthesis takes no part in a sign. -/
theorem widen_append_paren (t v : Text) :
    widen o (t ++ ')' :: v) = widen o t ++ ')' :: widen o v := by
  have harrow : ∀ a : Arrow, a.char ≠ ')' := fun a => by cases a <;> decide
  rw [widen_append_cons harrow (fun h => absurd h (by decide)),
    widen_of_none (by simp [sign?_eq_none_iff])]

/-- Making room is one scan over the anchored expression. -/
theorem expand_eq_widen (o : Options) (p : Text) : expand o p = widen o (expand (bare o) p) := by
  have hhead : ∀ c ∈ flags o ++ "^(?:".toList, c ∉ [' ', ';', '\\', '<', '>'] := by
    unfold flags
    rcases o.ignoreCase <;> rcases o.dotAll <;> simp
  have htail : widen o "\\n?$".toList = "\\n?$".toList := by
    show widen o ('\\' :: "n?$".toList) = _
    rw [widen_of_none (by simp [sign?_eq_none_iff])]
    have hrest := widen_append_of_not_mem (o := o) (u := "n?$".toList) (by simp) []
    rw [List.append_nil, widen_nil, List.append_nil] at hrest
    rw [hrest]
    rfl
  have hplain : expand (bare o) p = (flags o ++ "^(?:".toList) ++
      (escapeSlashes p ++ ')' :: "\\n?$".toList) := List.append_assoc _ _ _
  rw [hplain, widen_append_of_not_mem hhead, widen_append_paren, htail, ← body_eq_widen,
    ← List.append_assoc]
  rfl

end Pattern
end AnswerKey
