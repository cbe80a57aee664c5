import AnswerKey.Regex.CharSet
import AnswerKey.Text

/-!
# Regular expressions

Expressions over character sets, with assertions that look at the two characters
around a place.  `Matches` says which texts an expression matches between two
neighbours; how often a repetition prefers to go round makes no difference to it.
-/

namespace AnswerKey

namespace Regex

/-- Which characters make up words. -/
inductive Alphabet where
  | unicode | ascii
deriving DecidableEq, Repr, Hashable

/-- A place in a text with regard to the words around it. -/
inductive WordEdge where
  /-- The start or the end of a word. -/
  | boundary
  /-- Neither the start nor the end of a word. -/
  | within
  | start | finish
  /-- No word goes on from before the place, or none goes on behind it. -/
  | startHalf | finishHalf
deriving DecidableEq, Repr, Hashable

/-- A condition on a place in a text. -/
inductive Assertion where
  | textStart | textEnd
  /-- The start or end of a line, where line feeds divide lines. -/
  | lineStart | lineEnd
  /-- The start or end of a line, where line feeds, carriage returns and the two together divide
  lines. -/
  | anyLineStart | anyLineEnd
  | word (e : WordEdge) (k : Alphabet)
deriving DecidableEq, Repr, Hashable

/-- Whether a character belongs to words. -/
def Alphabet.isWord : Alphabet → Char → Bool
  | unicode, c => Unicode.isWord c
  | ascii, c => c.isAlphanum || c == '_'

/-- Whether a place is an edge of a word, where `before` and `after` say whether a word character
stands on either side. -/
def WordEdge.holds (before after : Bool) : WordEdge → Bool
  | boundary => before != after
  | within => before == after
  | start => !before && after
  | finish => before && !after
  | startHalf => !before
  | finishHalf => !after

/-- Whether a condition holds at the place between two neighbours. -/
def Assertion.holds (before after : Option Char) : Assertion → Bool
  | textStart => before.isNone
  | textEnd => after.isNone
  | lineStart => before.isNone || before == some '\n'
  | lineEnd => after.isNone || after == some '\n'
  | anyLineStart =>
    before.isNone || before == some '\n' || before == some '\r' && after != some '\n'
  | anyLineEnd =>
    after.isNone || after == some '\r' || after == some '\n' && before != some '\r'
  | word e k => e.holds (before.any k.isWord) (after.any k.isWord)

end Regex

/-- A regular expression. -/
inductive Regex where
  /-- The empty text. -/
  | empty
  /-- One character of a set. -/
  | chars (s : Regex.CharSet)
  /-- The empty text at a place where a condition holds. -/
  | assertion (a : Regex.Assertion)
  /-- One expression and then another. -/
  | seq (a b : Regex)
  /-- One of two expressions. -/
  | alt (a b : Regex)
  /-- An expression `least` times and then up to `extra` times more, any number if there is no
  `extra`. -/
  | repeated (a : Regex) (least : Nat) (extra : Option Nat)
deriving Repr

namespace Regex

/-! ## Equality

The remainders of an expression have large parts in common, so whether two parts are one and the
same object is looked at first. -/

/-- Whether two expressions are equal. -/
def decEq : (r s : Regex) → Decidable (r = s)
  | empty, empty => isTrue rfl
  | chars s, chars u => decidable_of_iff (s = u) (by simp)
  | assertion a, assertion b => decidable_of_iff (a = b) (by simp)
  | seq a b, seq c d =>
    match withPtrEqDecEq a c fun _ => decEq a c with
    | isFalse h => isFalse (by simp [h])
    | isTrue h =>
      match withPtrEqDecEq b d fun _ => decEq b d with
      | isFalse h' => isFalse (by simp [h'])
      | isTrue h' => isTrue (by rw [h, h'])
  | alt a b, alt c d =>
    match withPtrEqDecEq a c fun _ => decEq a c with
    | isFalse h => isFalse (by simp [h])
    | isTrue h =>
      match withPtrEqDecEq b d fun _ => decEq b d with
      | isFalse h' => isFalse (by simp [h'])
      | isTrue h' => isTrue (by rw [h, h'])
  | repeated a least extra, repeated b least' extra' =>
    if h' : least = least' ∧ extra = extra' then
      match withPtrEqDecEq a b fun _ => decEq a b with
      | isTrue h => isTrue (by rw [h, h'.1, h'.2])
      | isFalse h => isFalse (by simp [h])
    else isFalse (by simp_all)
  | empty, chars _ | empty, assertion _ | empty, seq .. | empty, alt .. | empty, repeated ..
  | chars _, empty | chars _, assertion _ | chars _, seq .. | chars _, alt .. | chars _, repeated ..
  | assertion _, empty | assertion _, chars _ | assertion _, seq .. | assertion _, alt ..
  | assertion _, repeated .. | seq .., empty | seq .., chars _ | seq .., assertion _ | seq .., alt ..
  | seq .., repeated .. | alt .., empty | alt .., chars _ | alt .., assertion _ | alt .., seq ..
  | alt .., repeated .. | repeated .., empty | repeated .., chars _ | repeated .., assertion _
  | repeated .., seq .. | repeated .., alt .. => isFalse nofun

instance : DecidableEq Regex := fun r s => withPtrEqDecEq r s fun _ => decEq r s

/-- A number for a table.  What is repeated does not count, since the remainders of an expression
differ in how often rather than in what. -/
def key : Regex → UInt64
  | empty => 1
  | chars s => hash s
  | assertion a => hash a
  | seq a b => mixHash a.key b.key
  | alt a b => mixHash a.key (mixHash b.key 5)
  | repeated _ least extra => mixHash (hash least) (hash extra)

instance : Hashable Regex := ⟨key⟩

/-! ## What an expression matches -/

/-- The neighbour behind a place: the first character of what follows, or else `after`. -/
def neighbour (t : Text) (after : Option Char) : Option Char :=
  t.head?.or after

/-- The neighbour before a place: the last character of what precedes, or else `before`. -/
def lastOf (before : Option Char) (t : Text) : Option Char :=
  t.getLast?.or before

/-- `Matches r before t after`: the expression matches all of `t` when the characters next to
`t` are `before` and `after`. -/
inductive Matches : Regex → Option Char → Text → Option Char → Prop where
  | empty {before after} : Matches .empty before [] after
  | chars {s c before after} : s.contains c = true → Matches (.chars s) before [c] after
  | assertion {a before after} : a.holds before after = true →
      Matches (.assertion a) before [] after
  | seq {a b before s t after} : Matches a before s (neighbour t after) →
      Matches b (lastOf before s) t after → Matches (.seq a b) before (s ++ t) after
  | left {a b before t after} : Matches a before t after → Matches (.alt a b) before t after
  | right {a b before t after} : Matches b before t after → Matches (.alt a b) before t after
  | done {a extra before after} : Matches (.repeated a 0 extra) before [] after
  | needed {a least extra before s t after} : Matches a before s (neighbour t after) →
      Matches (.repeated a least extra) (lastOf before s) t after →
      Matches (.repeated a (least + 1) extra) before (s ++ t) after
  | onceMore {a extra before s t after} : Matches a before s (neighbour t after) →
      Matches (.repeated a 0 (some extra)) (lastOf before s) t after →
      Matches (.repeated a 0 (some (extra + 1))) before (s ++ t) after
  | goOn {a before s t after} : Matches a before s (neighbour t after) →
      Matches (.repeated a 0 none) (lastOf before s) t after →
      Matches (.repeated a 0 none) before (s ++ t) after

/-- The expression matches somewhere in a text. -/
def MatchesIn (r : Regex) (t : Text) : Prop :=
  ∃ s u v, t = s ++ u ++ v ∧ Matches r (lastOf none s) u (neighbour v none)

end Regex
end AnswerKey
