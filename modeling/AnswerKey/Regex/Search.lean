import AnswerKey.Regex
import AnswerKey.Regex.Prune

/-!
# Searching a text

The search goes through a text once, with the list of what is still to be matched
at the current place.  `isEmptyAt` decides whether an expression can match the
empty text between two neighbours, and `step` gives what is left of it after a
character; an expression has only few remainders that are of use, so the list stays short
once it is pruned.
-/

namespace AnswerKey.Regex

/-- Whether the expression matches the empty text between two neighbours. -/
def isEmptyAt (before after : Option Char) : Regex → Bool
  | empty => true
  | chars _ => false
  | assertion a => a.holds before after
  | seq a b => a.isEmptyAt before after && b.isEmptyAt before after
  | alt a b => a.isEmptyAt before after || b.isEmptyAt before after
  | repeated a least _ => least == 0 || a.isEmptyAt before after

/-- What is left of a sequence when `rest` is left of its first part; a rest of no rounds is
nothing. -/
def followedBy (rest : Regex) (b : Regex) : Regex :=
  match rest with
  | empty | repeated _ 0 (some 0) => b
  | _ => seq rest b

/-- What can be left of the expression after it has matched `c`, where `before` precedes `c`.
A repetition that may go round without a character may spend all its needed rounds that way. -/
def step (before : Option Char) (c : Char) : Regex → List Regex
  | empty => []
  | chars s => if s.contains c then [empty] else []
  | assertion _ => []
  | seq a b =>
    let first := (a.step before c).map fun rest => followedBy rest b
    if a.isEmptyAt before (some c) then first ++ b.step before c else first
  | alt a b => a.step before c ++ b.step before c
  | repeated a least extra =>
    let rounds :=
      match least, extra with
      | least + 1, extra =>
        if a.isEmptyAt before (some c) then some (repeated a 0 (extra.map (· + least)))
        else some (repeated a least extra)
      | 0, none => some (repeated a 0 none)
      | 0, some (extra + 1) => some (repeated a 0 (some extra))
      | 0, some 0 => none
    match rounds with
    | some more => (a.step before c).map fun rest => followedBy rest more
    | none => []

/-- Whether `r` matches somewhere in a text, where `pending` is left of matches that began
before it. -/
def searchFrom (r : Regex) (before : Option Char) (pending : List Regex) : Text → Bool
  | [] => (r :: pending).any fun p => p.isEmptyAt before none
  | c :: t =>
    let here := r :: pending
    here.any (fun p => p.isEmptyAt before (some c)) ||
      searchFrom r (some c) (prune (here.flatMap fun p => p.step before c)) t

/-- Whether the expression matches somewhere in a text. -/
def isMatch (r : Regex) (t : Text) : Bool :=
  searchFrom r none [] t

end AnswerKey.Regex
