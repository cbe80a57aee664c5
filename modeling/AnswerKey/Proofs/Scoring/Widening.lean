import AnswerKey.Proofs.Pattern.Growth
import AnswerKey.Scoring
import Mathlib

/-!
# Patterns with room

Switching on room for the signs of a pattern lets it accept more and nothing less, as long as each
of the signs can be given room where it stands.  That is not so everywhere: the members of a negated
bracket are what it does not match, the end of a range is no member, and rounds of a doubled sign
are rounds of its second half without room and of all of it with room.
-/

namespace AnswerKey.Scoring

open Regex Pattern

variable {o : Options} {p : Text} {r : Regex}

theorem expand_withRoom (hbare : bare o = o) (spaces pipes redirects : Bool) (p : Text) :
    expand (o.withRoom spaces pipes redirects) p =
      widen (o.withRoom spaces pipes redirects) (expand o p) := by
  have hsame : bare (o.withRoom spaces pipes redirects) = o := hbare
  have hwiden := expand_eq_widen (o.withRoom spaces pipes redirects) p
  rwa [hsame] at hwiden

/-- A pattern is an expression still when signs that can be given room are given it, and one that
matches no less.  It can only be turned down for its size. -/
theorem room_widens (spaces pipes redirects : Bool) (hbare : bare o = o)
    (h : compile? o p = some r)
    (hroomy : isRoomy (o.withRoom spaces pipes redirects) (expand o p) = true) :
    ∃ tree, readTree? {} (expand (o.withRoom spaces pipes redirects) p) = some tree ∧
      compile? (o.withRoom spaces pipes redirects) p =
        (if tree.fits then some tree.regex else none) ∧
      ∀ x, r.isMatch x = true → tree.regex.isMatch x = true := by
  obtain ⟨tree, htree, hr⟩ := Option.bind_eq_some_iff.1 h
  obtain ⟨wide, hwide, hwithin⟩ := readTree?_widen htree hroomy
  rw [← expand_withRoom hbare] at hwide
  have hregex : tree.regex = r := by
    split at hr
    · exact Option.some.inj hr
    · cases hr
  have hcompiled : compile? (o.withRoom spaces pipes redirects) p =
      if wide.fits then some wide.regex else none := by
    unfold compile? read? readWithin?
    rw [hwide, Option.bind_some]
  refine ⟨wide, hwide, hcompiled, fun x hx => ?_⟩
  rw [← hregex] at hx
  exact hwithin.isMatch hx

/-- Options that give no room. -/
def tight : Options :=
  ({} : Options).withRoom false false false

/-- Whether a pattern matches a text, if it is an expression. -/
def verdict? (o : Options) (p x : Text) : Option Bool :=
  (compile? o p).map fun r => r.isMatch x

/-- Both spaces of `a [ b]` can be given room, the one in the bracket as well. -/
theorem room_widens_bracket :
    ∃ r s, compile? tight "a [ b]".toList = some r ∧
      compile? (tight.withRoom true false false) "a [ b]".toList = some s ∧
      (∀ x, r.isMatch x = true → s.isMatch x = true) ∧
      r.isMatch "a\t+".toList = false ∧ s.isMatch "a\t+".toList = true := by
  have htight : verdict? tight "a [ b]".toList "a\t+".toList = some false := by cbv
  have hwide : verdict? (tight.withRoom true false false) "a [ b]".toList "a\t+".toList =
      some true := by cbv
  have hroomy : isRoomy (tight.withRoom true false false) (expand tight "a [ b]".toList) = true := by
    decide +kernel
  obtain ⟨r, hr, hbefore⟩ := Option.map_eq_some_iff.1 htight
  obtain ⟨s, hs, hafter⟩ := Option.map_eq_some_iff.1 hwide
  obtain ⟨tree, -, hcompiled, hmore⟩ := room_widens true false false rfl hr hroomy
  have htree : tree.regex = s := by
    rw [hs] at hcompiled
    split at hcompiled
    · exact (Option.some.inj hcompiled).symm
    · cases hcompiled
  rw [htree] at hmore
  exact ⟨r, s, hr, hs, hmore, hbefore, hafter⟩

/-- A text is matched as long as signs have no room, and then no more. -/
def Narrows (o : Options) (p x : Text) : Prop :=
  verdict? (bare o) p x = some true ∧ verdict? o p x = some false

/-- A negated bracket loses what its room is made of, a range loses its end, and rounds of a doubled
sign become rounds of both halves. -/
theorem room_narrows :
    Narrows (tight.withRoom true false false) "[^ ]".toList ":".toList ∧
      Narrows (tight.withRoom true false false) "[ -~]".toList "!".toList ∧
      Narrows (tight.withRoom false false true) "<<+".toList "<<<".toList := by
  have hnegated : Narrows (tight.withRoom true false false) "[^ ]".toList ":".toList :=
    ⟨by cbv, by cbv⟩
  have hrange : Narrows (tight.withRoom true false false) "[ -~]".toList "!".toList :=
    ⟨by cbv, by cbv⟩
  have hdoubled : Narrows (tight.withRoom false false true) "<<+".toList "<<<".toList := by
    have hexpand : expand (tight.withRoom false false true) "<<+".toList =
        "^(?:(?:[ \\t]*<<[ \\t]*)+)\\n?$".toList := by decide +kernel
    refine ⟨by cbv, ?_⟩
    unfold verdict? compile?
    rw [hexpand]
    cbv
  exact ⟨hnegated, hrange, hdoubled⟩

end AnswerKey.Scoring
