import AnswerKey.Proofs.Pattern.Sign

/-!
# The lexemes of a pattern

A pattern is expanded pass by pass.  Reading it once from the left gives the same: it falls into
signs that are given room, slashes that are not escaped, and other characters, and each of these
lexemes has its own image.  Whether a slash is escaped depends on the backslashes before it in the
pattern itself.  What a pass has put in is never touched by a later one, so that after any of the
passes there are the lexemes still, those of some kinds in their images and the others as they were
written.
-/

namespace AnswerKey

/-- A part of a pattern that is carried over by itself. -/
inductive Lexeme where
  /-- A sign that is given room. -/
  | sign (g : Sign)
  /-- A slash that no backslash escapes. -/
  | bareSlash
  /-- Any other character, a slash that is escaped among them. -/
  | plain (c : Char)
deriving DecidableEq, Repr

namespace Lexeme

/-- The lexeme as it is written. -/
def text : Lexeme → Text
  | sign g => g.text
  | bareSlash => ['/']
  | plain c => [c]

/-- What becomes of the lexeme. -/
def image : Lexeme → Text
  | sign g => g.room
  | bareSlash => ['\\', '/']
  | plain c => [c]

/-- What has become of the lexeme when only the signs that `o` gives room to have been replaced. -/
def imageUnder (o : Options) : Lexeme → Text
  | sign g => if o.widens g then g.room else g.text
  | bareSlash => ['/']
  | plain c => [c]

end Lexeme

namespace Pattern

variable {o : Options} {g : Sign} {c : Char} {t rest before : Text}

/-- How many backslashes there are at the end of a text. -/
def backslashes (before : Text) : Nat :=
  (before.reverse.takeWhile (· = '\\')).length

/-- The lexeme that a character is which begins no sign, where `before` comes before it. -/
def single (before : Text) (c : Char) : Lexeme :=
  if c = '/' ∧ backslashes before % 2 = 0 then .bareSlash else .plain c

/-- The lexemes of a text, where `before` comes before it. -/
def lexemesAfter (o : Options) (before t : Text) : List Lexeme :=
  match _h : sign? o t with
  | some (g, rest) => .sign g :: lexemesAfter o (before ++ g.text) rest
  | none =>
    match t with
    | [] => []
    | c :: t => single before c :: lexemesAfter o (before ++ [c]) t
termination_by t.length
decreasing_by
  · exact length_of_sign? ‹_›
  · simp

/-- The lexemes of a pattern, read from the left. -/
def lexemes (o : Options) (p : Text) : List Lexeme :=
  lexemesAfter o [] p

/-! ## Nothing is lost -/

theorem text_single (before : Text) (c : Char) : (single before c).text = [c] := by
  unfold single
  split
  · next h => rw [h.1]; rfl
  · rfl

/-- The lexemes of a text make up the text. -/
theorem flatMap_text_lexemesAfter (o : Options) (before t : Text) :
    (lexemesAfter o before t).flatMap Lexeme.text = t := by
  fun_induction lexemesAfter o before t with
  | case1 before t g rest h ih =>
    obtain ⟨-, rfl, -⟩ := sign?_eq_some h
    rw [List.flatMap_cons, ih]
    rfl
  | case2 => rfl
  | case3 before c t h ih =>
    rw [List.flatMap_cons, ih, text_single]
    rfl

/-! ## Some of the signs replaced -/

/-- A sign that is given no room is left as it is. -/
theorem widen_text (hg : o.widens g = false) (t : Text) :
    widen o (g.text ++ t) = g.text ++ widen o t := by
  cases g with
  | space => exact widen_of_none (sign?_eq_none_iff.2 (by simpa [Options.widens] using hg))
  | semicolon => exact widen_of_none (sign?_eq_none_iff.2 (by simpa [Options.widens] using hg))
  | pipe =>
    have hpipe : sign? o ('\\' :: '|' :: t) = none :=
      sign?_eq_none_iff.2 (by simpa [Options.widens] using hg)
    -- the pipe by itself is no sign
    have hbar : sign? o ('|' :: t) = none := sign?_eq_none_iff.2 (by simp)
    show widen o ('\\' :: '|' :: t) = '\\' :: '|' :: widen o t
    rw [widen_of_none hpipe, widen_of_none hbar]
  | redirect a =>
    have hredirect : sign? o (a.char :: t) = none :=
      sign?_eq_none_iff.2 (by cases a <;> simpa [Options.widens, Arrow.char] using hg)
    exact widen_of_none hredirect
  | doubled a =>
    have hredirect : ∀ u, sign? o (a.char :: u) = none := fun u =>
      sign?_eq_none_iff.2 (by cases a <;> simpa [Options.widens, Arrow.char] using hg)
    show widen o (a.char :: a.char :: t) = a.char :: a.char :: widen o t
    rw [widen_of_none (hredirect _), widen_of_none (hredirect _)]

/-- Options that give room to nothing but what `o` gives room to. -/
def Narrower (less o : Options) : Prop :=
  ∀ g, less.widens g = true → o.widens g = true

/-- Where options find no sign, narrower ones find none. -/
theorem sign?_of_narrower {less : Options} (hless : Narrower less o) (h : sign? o (c :: t) = none) :
    sign? less (c :: t) = none := by
  have hoff : ∀ g, o.widens g = false → less.widens g = false := fun g hg => by
    rw [← Bool.not_eq_true] at hg ⊢
    exact mt (hless g) hg
  obtain ⟨hspace, hsemicolon, hpipe, hredirect⟩ := sign?_eq_none_iff.1 h
  exact sign?_eq_none_iff.2 ⟨fun hc => hoff .space (hspace hc),
    fun hc => hoff .semicolon (hsemicolon hc), fun hc hhead => hoff .pipe (hpipe hc hhead),
    fun hc => hoff (.redirect .left) (hredirect hc)⟩

theorem imageUnder_single (o : Options) (before : Text) (c : Char) :
    (single before c).imageUnder o = [c] := by
  unfold single
  split
  · next h => rw [h.1]; rfl
  · rfl

/-- Giving room to some of the signs leaves the lexemes what they are. -/
theorem widen_eq_flatMap {less : Options} (hless : Narrower less o) (before t : Text) :
    widen less t = (lexemesAfter o before t).flatMap (Lexeme.imageUnder less) := by
  fun_induction lexemesAfter o before t with
  | case1 before t g rest h ih =>
    obtain ⟨-, rfl, hapart⟩ := sign?_eq_some h
    rw [List.flatMap_cons, ← ih]
    by_cases hg : less.widens g = true
    · rw [widen_of_sign (sign?_append hg hapart), Lexeme.imageUnder, if_pos hg]
    · rw [widen_text (Bool.not_eq_true _ ▸ hg), Lexeme.imageUnder, if_neg hg]
  | case2 => exact widen_nil
  | case3 before c t h ih =>
    rw [widen_of_none (sign?_of_narrower hless h), List.flatMap_cons, ← ih, imageUnder_single]
    rfl

/-! ## Slashes -/

/-- A backslash makes the run before it longer, and anything else ends it. -/
theorem backslashes_append (before : Text) (c : Char) :
    backslashes (before ++ [c]) = if c = '\\' then backslashes before + 1 else 0 := by
  unfold backslashes
  rw [List.reverse_append, List.reverse_singleton, List.singleton_append, List.takeWhile_cons]
  by_cases hc : c = '\\' <;> simp [hc]

/-- No sign ends in a backslash. -/
theorem backslashes_append_sign (before : Text) (g : Sign) :
    backslashes (before ++ g.text) = 0 := by
  have hlast : ∃ init c, g.text = init ++ [c] ∧ c ≠ '\\' := by
    cases g with
    | space => exact ⟨[], ' ', rfl, by decide⟩
    | semicolon => exact ⟨[], ';', rfl, by decide⟩
    | pipe => exact ⟨['\\'], '|', rfl, by decide⟩
    | redirect a => exact ⟨[], a.char, rfl, by cases a <;> decide⟩
    | doubled a => exact ⟨[a.char], a.char, rfl, by cases a <;> decide⟩
  obtain ⟨init, c, htext, hc⟩ := hlast
  rw [htext, ← List.append_assoc, backslashes_append, if_neg hc]

/-- Whether a text follows an odd run of backslashes. -/
def oddAfter (before : Text) : Bool :=
  backslashes before % 2 = 1

/-- A backslash turns the parity around, and anything else makes it even. -/
theorem oddAfter_append (before : Text) (c : Char) :
    oddAfter (before ++ [c]) = (c = '\\' && !oddAfter before) := by
  unfold oddAfter
  rw [backslashes_append]
  by_cases hc : c = '\\'
  · simp only [hc, if_true, decide_true, Bool.true_and, ← decide_not, decide_eq_decide]
    omega
  · simp [hc]

/-- No backslash stands behind a sign. -/
theorem oddAfter_append_sign (before : Text) (g : Sign) : oddAfter (before ++ g.text) = false := by
  unfold oddAfter
  rw [backslashes_append_sign]
  rfl

/-- Escaping carries the parity of the backslashes along; in the images of the lexemes it is that of
the pattern. -/
theorem escapeSlashesFrom_widen_eq_flatMap (o : Options) (before t : Text) :
    escapeSlashesFrom (oddAfter before) (widen o t) =
      (lexemesAfter o before t).flatMap Lexeme.image := by
  fun_induction lexemesAfter o before t with
  | case1 before t g rest h ih =>
    rw [widen_of_sign h, escapeSlashesFrom_room, List.flatMap_cons, ← ih, oddAfter_append_sign]
    rfl
  | case2 => rw [widen_nil]; rfl
  | case3 before c t h ih =>
    rw [widen_of_none h, escapeSlashesFrom, ← oddAfter_append, ih, List.flatMap_cons, single]
    by_cases hc : c = '/' ∧ backslashes before % 2 = 0
    · have hbare : (c = '/' && !oddAfter before) = true := by simp [oddAfter, hc]
      rw [if_pos hbare, if_pos hc, hc.1]
      rfl
    · have hbare : ¬ (c = '/' && !oddAfter before) = true := by
        simpa [oddAfter] using hc
      rw [if_neg hbare, if_neg hc]
      rfl

/-! ## The whole expression -/

theorem narrower_withRoom {spaces pipes redirects : Bool} (hspaces : spaces = true → o.wideSpaces)
    (hpipes : pipes = true → o.widePipes) (hredirects : redirects = true → o.wideRedirects) :
    Narrower (o.withRoom spaces pipes redirects) o
  | .space => hspaces
  | .semicolon | .pipe => hpipes
  | .redirect _ | .doubled _ => hredirects

/-- The passes for some kinds of signs leave the others as they were written. -/
theorem passes_eq_flatMap {less : Options} (hless : Narrower less o) (p : Text) :
    passes less p = (lexemes o p).flatMap (Lexeme.imageUnder less) :=
  (passes_eq_widen less p).trans (widen_eq_flatMap hless [] p)

/-- A pattern after the pass for spaces. -/
def spaced (o : Options) (p : Text) : Text :=
  if o.wideSpaces then widenSpaces p else p

/-- A pattern after the passes for spaces, semicolons and pipes. -/
def piped (o : Options) (p : Text) : Text :=
  if o.widePipes then widenPipes (widenSemicolons (spaced o p)) else spaced o p

/-- A pattern after all passes but the one for slashes. -/
def redirected (o : Options) (p : Text) : Text :=
  if o.wideRedirects then widenRedirects (piped o p) else piped o p

/-- The lexemes of a pattern make it up, and their images make up its expansion.  Each pass replaces
the lexemes of its own kind, as they were written, and leaves alone what has been put in before. -/
theorem expand_eq_lexemes (o : Options) (p : Text) :
    (lexemes o p).flatMap Lexeme.text = p ∧
      expand o p =
        flags o ++ "^(?:".toList ++ (lexemes o p).flatMap Lexeme.image ++ ")\\n?$".toList ∧
      spaced o p = (lexemes o p).flatMap (Lexeme.imageUnder (o.withRoom o.wideSpaces false false)) ∧
      piped o p =
        (lexemes o p).flatMap (Lexeme.imageUnder (o.withRoom o.wideSpaces o.widePipes false)) ∧
      redirected o p = (lexemes o p).flatMap (Lexeme.imageUnder o) ∧
      escapeSlashes (redirected o p) = (lexemes o p).flatMap Lexeme.image ∧
      body o p = escapeSlashes (redirected o p) := by
  -- a pass knows the signs of its own kind and of the kinds before it
  have hfirst : Narrower (o.withRoom o.wideSpaces false false) o :=
    narrower_withRoom (fun h => h) (fun h => nomatch h) (fun h => nomatch h)
  have hsecond : Narrower (o.withRoom o.wideSpaces o.widePipes false) o :=
    narrower_withRoom (fun h => h) (fun h => h) (fun h => nomatch h)
  have hspaced : spaced o p =
      (lexemes o p).flatMap (Lexeme.imageUnder (o.withRoom o.wideSpaces false false)) :=
    passes_eq_flatMap hfirst p
  have hpiped : piped o p =
      (lexemes o p).flatMap (Lexeme.imageUnder (o.withRoom o.wideSpaces o.widePipes false)) :=
    passes_eq_flatMap hsecond p
  have hredirected : redirected o p = (lexemes o p).flatMap (Lexeme.imageUnder o) :=
    passes_eq_flatMap (fun _ h => h) p
  have hescaped : escapeSlashes (redirected o p) = (lexemes o p).flatMap Lexeme.image := by
    have hwiden : redirected o p = widen o p := passes_eq_widen o p
    rw [hwiden]
    exact escapeSlashesFrom_widen_eq_flatMap o [] p
  have hbody : body o p = escapeSlashes (redirected o p) := rfl
  refine ⟨flatMap_text_lexemesAfter o [] p, ?_, hspaced, hpiped, hredirected, hescaped, hbody⟩
  rw [← hescaped, ← hbody]
  rfl

/-- The second backslash escapes the pipe and the third the slash, and of three signs the first two
are taken together. -/
example : lexemes ⟨false, false, true, true, false, true, true⟩ "\\\\|\\/<<< /".toList =
    [.plain '\\', .sign .pipe, .plain '\\', .plain '/', .sign (.doubled .left),
      .sign (.redirect .left), .sign .space, .bareSlash] := by cbv

end Pattern
end AnswerKey
