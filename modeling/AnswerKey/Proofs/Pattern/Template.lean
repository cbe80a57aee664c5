import AnswerKey.Proofs.Pattern.Anchored
import AnswerKey.Proofs.Pattern.Growth
import AnswerKey.Proofs.Pattern.Lexeme
import Mathlib.Data.List.Induction

/-!
# Templates

A template is a pattern of plain characters and signs, as it is written for a command line.  It
falls into tokens, two equal redirection signs being taken together where they can be.  Its
expansion is made of an image for each token, and read as a run of trees, some for each token.
-/

namespace AnswerKey.Template

open Regex Pattern

/-! ## Tokens -/

/-- Whether a character stands for itself and no option gives room to it. -/
def isPlainChar (c : Char) : Bool :=
  c ∉ "()|[?*+\x7b.^$\\ ;<>".toList

/-- What a template is written with, one by one. -/
inductive Atom where
  | literal (c : Char) (h : isPlainChar c = true)
  | space | semicolon
  /-- A pipe with a backslash before it. -/
  | pipe
  | arrow (a : Arrow)
deriving DecidableEq

/-- The text of an atom. -/
def Atom.text : Atom → Text
  | literal c _ => [c]
  | space => [' ']
  | semicolon => [';']
  | pipe => ['\\', '|']
  | arrow a => [a.char]

/-- The text of a template. -/
def text (atoms : List Atom) : Text :=
  atoms.flatMap Atom.text

/-- A plain character or a sign. -/
inductive Token where
  | literal (c : Char) (h : isPlainChar c = true)
  | sign (g : Sign)
deriving DecidableEq

/-- The tokens of a template, read from the left. -/
def tokens : List Atom → List Token
  | [] => []
  | .literal c h :: atoms => .literal c h :: tokens atoms
  | .space :: atoms => .sign .space :: tokens atoms
  | .semicolon :: atoms => .sign .semicolon :: tokens atoms
  | .pipe :: atoms => .sign .pipe :: tokens atoms
  | .arrow .left :: .arrow .left :: atoms => .sign (.doubled .left) :: tokens atoms
  | .arrow .right :: .arrow .right :: atoms => .sign (.doubled .right) :: tokens atoms
  | .arrow a :: atoms => .sign (.redirect a) :: tokens atoms

namespace Token

/-- The token as it is written. -/
def text : Token → Text
  | literal c _ => [c]
  | sign g => g.text

/-- What becomes of the token in an expression. -/
def image (o : Options) : Token → Text
  | literal c _ => if c = '/' then ['\\', '/'] else [c]
  | sign g => if o.widens g then g.room else g.text

end Token

variable {o : Options} {f : Flags} {c : Char} {g : Sign} {rest t : Text} {atoms : List Atom}
  {token : Token} {ts : List Token}

theorem not_mem_of_isPlainChar (h : isPlainChar c = true) : c ∉ "()|[?*+\x7b.^$\\ ;<>".toList :=
  of_decide_eq_true h

theorem ne_of_isPlainChar {d : Char} (h : isPlainChar c = true)
    (hd : d ∈ "()|[?*+\x7b.^$\\ ;<>".toList) : c ≠ d :=
  fun he => not_mem_of_isPlainChar h (he ▸ hd)

/-- Tokens that could not be taken together with what follows them. -/
inductive Separated : List Token → Prop where
  | nil : Separated []
  | cons {token : Token} {ts : List Token} :
      (∀ g, token = .sign g → Apart g (ts.flatMap Token.text)) → Separated ts →
        Separated (token :: ts)

theorem flatMap_text_tokens (atoms : List Atom) :
    (tokens atoms).flatMap Token.text = text atoms := by
  unfold text
  fun_induction tokens atoms with
  | case1 => rfl
  | case8 a atoms _ _ ih =>
    rw [List.flatMap_cons, List.flatMap_cons, ih]
    rfl
  | _ =>
    next ih =>
    simp only [List.flatMap_cons, ih]
    rfl

/-- A sign is left by itself only in front of something else. -/
theorem separated_tokens (atoms : List Atom) : Separated (tokens atoms) := by
  fun_induction tokens atoms with
  | case1 => exact .nil
  | case8 a atoms hleft hright ih =>
    refine .cons (fun g hg => ?_) ih
    cases hg
    intro b hb hhead
    cases hb
    rw [flatMap_text_tokens] at hhead
    -- two arrows of a kind would have been read as a doubled one
    cases atoms with
    | nil => cases hhead
    | cons atom atoms =>
      cases atom with
      | literal c h =>
        exact ne_of_isPlainChar h (by cases a <;> decide) (Option.some.inj hhead)
      | arrow b =>
        have hab : b.char = a.char := Option.some.inj hhead
        cases a <;> cases b
        · exact hleft atoms rfl rfl
        · exact absurd hab (by decide)
        · exact absurd hab (by decide)
        · exact hright atoms rfl rfl
      | _ =>
        have hab := Option.some.inj hhead
        cases a <;> exact absurd hab (by decide)
  | _ =>
    next ih =>
    refine .cons (fun g hg => ?_) ih
    cases hg <;> exact fun a ha => nomatch ha

/-! ## Expansion -/

/-- A plain character is its own image, or an escaped slash. -/
theorem escapeSlashesFrom_literal (h : isPlainChar c = true) (t : Text) :
    escapeSlashesFrom false (c :: t) = (Token.literal c h).image o ++ escapeSlashesFrom false t := by
  have hc : c ≠ '\\' := ne_of_isPlainChar h (by decide)
  rw [escapeSlashesFrom, Token.image]
  by_cases hslash : c = '/'
  · simp [hslash]
  · simp [hc, hslash]

/-- No sign begins with a plain character. -/
theorem sign?_of_isPlainChar (h : isPlainChar c = true) (t : Text) : sign? o (c :: t) = none := by
  have hspace : c ≠ ' ' := ne_of_isPlainChar h (by decide)
  have hsemicolon : c ≠ ';' := ne_of_isPlainChar h (by decide)
  have hbackslash : c ≠ '\\' := ne_of_isPlainChar h (by decide)
  have hleft : c ≠ '<' := ne_of_isPlainChar h (by decide)
  have hright : c ≠ '>' := ne_of_isPlainChar h (by decide)
  simp [sign?_eq_none_iff, hspace, hsemicolon, hbackslash, hleft, hright]

/-- A token is expanded by itself if it could not be taken together with what follows. -/
theorem escapeSlashesFrom_widen_token (h : ∀ g, token = .sign g → Apart g rest) :
    escapeSlashesFrom false (widen o (token.text ++ rest)) =
      token.image o ++ escapeSlashesFrom false (widen o rest) := by
  cases token with
  | literal c hc =>
    show escapeSlashesFrom false (widen o (c :: rest)) = _
    rw [widen_of_none (sign?_of_isPlainChar hc rest), escapeSlashesFrom_literal hc]
  | sign g =>
    show escapeSlashesFrom false (widen o (g.text ++ rest)) = _
    by_cases hg : o.widens g = true
    · rw [widen_of_sign (sign?_append hg (h g rfl)), escapeSlashesFrom_room, Token.image, if_pos hg]
    · rw [widen_text (Bool.eq_false_iff.2 hg), escapeSlashesFrom_text, Token.image, if_neg hg]

/-- A template is expanded token by token. -/
theorem body_text (o : Options) (atoms : List Atom) :
    body o (text atoms) = (tokens atoms).flatMap (Token.image o) := by
  have hexpand : ∀ ts, Separated ts → escapeSlashesFrom false (widen o (ts.flatMap Token.text)) =
      ts.flatMap (Token.image o) := by
    intro ts hts
    induction hts with
    | nil => rw [List.flatMap_nil, widen_nil]; rfl
    | cons hfirst _ ih =>
      rw [List.flatMap_cons, escapeSlashesFrom_widen_token hfirst, ih, List.flatMap_cons]
  rw [← flatMap_text_tokens, ← hexpand _ (separated_tokens atoms), ← passes_eq_widen]
  rfl

/-! ## Reading -/

/-- The trees of some characters. -/
def charTrees (f : Flags) (cs : List Char) : List Tree :=
  cs.map fun c => .set (f.foldCase (.char c)) f.alphabet 0

namespace Token

/-- The tokens that the image of a token is read as. -/
def read (o : Options) : Token → List Regex.Token
  | literal c _ => [.item (.literal c)]
  | sign g => if o.widens g then g.roomTokens false else g.tokens

/-- The trees that a token comes to. -/
def trees (o : Options) (f : Flags) : Token → List Tree
  | literal c _ => charTrees f [c]
  | sign g => if o.widens g then [roomTree f g] else charTrees f g.chars

end Token

/-- A plain character is read as itself. -/
theorem readOutside?_plain (h : isPlainChar c = true) (t : Text) :
    readOutside? false (c :: t) = some (.item (.literal c), t) := by
  have hmem := not_mem_of_isPlainChar h
  unfold readOutside?
  split
  case h_1 he => cases he
  case h_14 he =>
    obtain ⟨rfl, rfl⟩ := List.cons.inj he
    rfl
  all_goals
    next he =>
    obtain ⟨rfl, rfl⟩ := List.cons.inj he
    exact absurd (by decide) hmem

/-- The image of a token is read by itself. -/
theorem reads_token (o : Options) (token : Token) (outer : List Bool) (t : Text) :
    Reads ⟨0, false, outer⟩ (token.image o ++ t) (token.read o) ⟨0, false, outer⟩ t := by
  cases token with
  | literal c h =>
    rw [Token.image]
    by_cases hslash : c = '/'
    · subst hslash
      exact .token rfl rfl .done
    · rw [if_neg hslash]
      exact .token rfl (readOutside?_plain h t) .done
  | sign g =>
    rw [Token.image, Token.read]
    by_cases hg : o.widens g = true
    · rw [if_pos hg, if_pos hg]
      exact reads_room_outside g outer t
    · rw [if_neg hg, if_neg hg]
      rcases g with _ | _ | _ | a | a
      case redirect | doubled =>
        cases a
        all_goals
          repeat refine .token rfl rfl ?_
          exact .done
      all_goals exact .token rfl rfl .done

/-- The images of some tokens are read one after the other. -/
theorem reads_tokens (o : Options) (ts : List Token) (outer : List Bool) (t : Text) :
    Reads ⟨0, false, outer⟩ (ts.flatMap (Token.image o) ++ t) (ts.flatMap (Token.read o))
      ⟨0, false, outer⟩ t := by
  induction ts with
  | nil => exact .done
  | cons token ts ih =>
    rw [List.flatMap_cons, List.flatMap_cons, List.append_assoc]
    exact (reads_token o token outer _).append ih

/-- The body of a template is read as the tokens that it was made of. -/
theorem readTokens?_body (o : Options) (atoms : List Atom) :
    readTokens? (body o (text atoms)) = some ((tokens atoms).flatMap (Token.read o)) := by
  have hreads := reads_tokens o (tokens atoms) [] []
  rw [List.append_nil, ← body_text] at hreads
  exact hreads.readTokensWithin? rfl le_rfl

/-- A template never ends in a comment. -/
theorem not_endsInComment_body (o : Options) (atoms : List Atom) :
    ¬ EndsInComment (body o (text atoms)) := by
  have hparen : Reads {} [')'] [.groupClose] {} [] := .token rfl rfl .done
  have hreads := (reads_tokens o (tokens atoms) [] [')']).append hparen
  rw [← body_text] at hreads
  have hlonger := hreads.readTokensWithin? rfl le_rfl
  intro hcomment
  rw [EndsInComment, readTokens?_body, readTokens?, hlonger, Option.some.injEq] at hcomment
  exact absurd (congrArg List.length hcomment) (by simp)

/-! ## Trees -/

/-- A reading with some more items. -/
def pushAll (r : Reading) (trees : List Tree) : Reading :=
  trees.foldl Reading.push r

theorem pushAll_append (r : Reading) (trees more : List Tree) :
    pushAll r (trees ++ more) = pushAll (pushAll r trees) more :=
  List.foldl_append

theorem run?_read {r : Reading} (hr : r.sets = []) (token : Token) :
    r.run? (token.read o) = some (pushAll r (token.trees o r.flags)) := by
  cases token with
  | literal c h =>
    obtain ⟨frame, outer, sets, names⟩ := r
    cases hr
    rfl
  | sign g =>
    rw [Token.read, Token.trees]
    by_cases hg : o.widens g = true
    · rw [if_pos hg, if_pos hg]
      exact run?_roomTokens_outside hr g
    · rw [if_neg hg, if_neg hg]
      exact run?_tokens_outside hr g

/-- Items leave everything else as it is. -/
theorem pushAll_start (f : Flags) (trees : List Tree) :
    ∃ repeatable, pushAll (Reading.start f) trees =
      { frame := { flags := f, items := trees.reverse, repeatable := repeatable } } := by
  induction trees using List.reverseRecOn with
  | nil => exact ⟨false, rfl⟩
  | append_singleton trees t ih =>
    obtain ⟨repeatable, ih⟩ := ih
    rw [pushAll_append, ih, List.reverse_append]
    exact ⟨true, rfl⟩

/-- What a template reads as comes to the trees of its tokens. -/
theorem run?_flatMap_read (f : Flags) (ts : List Token) :
    (Reading.start f).run? (ts.flatMap (Token.read o)) =
      some (pushAll (Reading.start f) (ts.flatMap (Token.trees o f))) := by
  induction ts using List.reverseRecOn with
  | nil => rfl
  | append_singleton ts token ih =>
    obtain ⟨repeatable, hstart⟩ := pushAll_start f (ts.flatMap (Token.trees o f))
    rw [List.flatMap_append, Reading.run?_append, ih, Option.bind_some, List.flatMap_append,
      pushAll_append, List.flatMap_singleton, List.flatMap_singleton, hstart]
    exact run?_read rfl token

/-- The tree of a template. -/
def tree (o : Options) (f : Flags) (atoms : List Atom) : Tree :=
  .ofItems ((tokens atoms).flatMap (Token.trees o f))

/-- A template is read as the trees of its tokens. -/
theorem readTree?_body (o : Options) (f : Flags) (atoms : List Atom) :
    readTree? f (body o (text atoms)) = some (tree o f atoms) := by
  obtain ⟨repeatable, hstart⟩ := pushAll_start f ((tokens atoms).flatMap (Token.trees o f))
  rw [readTree?_eq, readTokens?_body, Option.bind_some, run?_flatMap_read, Option.bind_some, hstart]
  show some (Tree.ofItems ((tokens atoms).flatMap (Token.trees o f)).reverse.reverse) = _
  rw [List.reverse_reverse]
  rfl

end AnswerKey.Template
