import AnswerKey.Regex.Size
import AnswerKey.Regex.Token

/-!
# Reading a regular expression

The tokens are taken one by one.  What has been read of the innermost group is
kept in a frame, and the groups around it in a stack of frames; a group that is
closed becomes an item of the one around it.  Brackets are kept in a stack of
their own.  A tree that is nested too deep or would take too much room is no expression.
-/

namespace AnswerKey.Regex

/-- The flags in force. -/
structure Flags where
  ignoreCase : Bool := false
  multiLine : Bool := false
  dotAll : Bool := false
  swapGreed : Bool := false
  unicode : Bool := true
  anyNewline : Bool := false
deriving DecidableEq, Repr

namespace Flags

/-- The flags after some changes. -/
def apply (f : Flags) (changes : FlagChanges) : Flags where
  ignoreCase := changes.apply .ignoreCase f.ignoreCase
  multiLine := changes.apply .multiLine f.multiLine
  dotAll := changes.apply .dotAll f.dotAll
  swapGreed := changes.apply .swapGreed f.swapGreed
  unicode := changes.apply .unicode f.unicode
  anyNewline := changes.apply .anyNewline f.anyNewline

/-- The alphabet of words. -/
def alphabet (f : Flags) : Alphabet :=
  if f.unicode then .unicode else .ascii

/-- A set as the flags would have it: closed under case, if case does not count. -/
def foldCase (f : Flags) (s : CharSet) : CharSet :=
  if f.ignoreCase then (if f.unicode then .anyCase s else .anyAsciiCase s) else s

end Flags

/-! ## Sets -/

/-- The set of a class with a letter of its own. -/
def LetterClass.set (k : LetterClass) : Alphabet → CharSet
  | .unicode =>
    match k with
    | digit => .digit
    | blank => .blank
    | word => .word
  | .ascii =>
    match k with
    | digit => .ascii .digit
    | blank => .ascii .space
    | word => .ascii .word

/-- Whether a character is one of ASCII. -/
def isAscii (c : Char) : Bool :=
  c.toNat < 128

/-- The set that an item contributes to a bracket.  Without Unicode only ASCII characters can be
members, so there are no complements and no properties. -/
def Item.member? (f : Flags) : Item → Option CharSet
  | literal c => if f.unicode || isAscii c then some (.char c) else none
  | byte c => if f.unicode || isAscii c then some (.char c) else none
  | range low high =>
    if f.unicode || isAscii low && isAscii high then some (.range low high) else none
  | letterClass k negated =>
    if f.unicode || !negated then some (CharSet.negateIf negated (k.set f.alphabet)) else none
  | asciiClass k negated =>
    if f.unicode || !negated then some (CharSet.negateIf negated (f.foldCase (.ascii k))) else none
  | property p negated =>
    if f.unicode then some (CharSet.negateIf negated (f.foldCase (.property p))) else none

/-- The set that an item stands for outside brackets.  There any character can stand for itself,
but not a byte that is no character of ASCII without Unicode. -/
def Item.set? (f : Flags) : Item → Option CharSet
  | literal c => some (f.foldCase (.char c))
  | byte c => if f.unicode || isAscii c then some (f.foldCase (.char c)) else none
  | i => i.member? f

/-- The set that a dot stands for: all characters or all that end no line. -/
def Flags.dot? (f : Flags) : Option CharSet :=
  if !f.unicode then none
  else if f.dotAll then some .any
  else if f.anyNewline then some (.compl (.union (.char '\r') (.char '\n')))
  else some (.compl (.char '\n'))

/-- The set that an operator makes of two. -/
def SetOperator.join (f : Flags) (o : SetOperator) (a b : CharSet) : CharSet :=
  let a := f.foldCase a
  let b := f.foldCase b
  match o with
  | inter => .inter a b
  | diff => a.diff b
  | symmDiff => a.symmDiff b

/-- A set and how deep the brackets are nested that it is written with. -/
structure WrittenSet where
  set : CharSet
  height : Nat
deriving DecidableEq, Repr

/-- A bracket that is still open: how many members there are since the last operator, their union
and the greatest of their heights, and what the operators before have made. -/
structure OpenSet where
  negated : Bool
  count : Nat := 0
  members : WrittenSet := ⟨.none, 0⟩
  joined : Option (WrittenSet × SetOperator) := none
deriving DecidableEq, Repr

namespace OpenSet

/-- The bracket with one more member. -/
def add (s : OpenSet) (member : WrittenSet) : OpenSet :=
  { s with
    count := s.count + 1
    members := ⟨.union s.members.set member.set, max s.members.height member.height⟩ }

/-- The members since the last operator as one set; several of them are nested one level deeper. -/
def recent (s : OpenSet) : WrittenSet :=
  if s.count ≤ 1 then s.members else ⟨s.members.set, s.members.height + 1⟩

/-- What the bracket holds so far; operators are obeyed from left to right. -/
def contents (f : Flags) (s : OpenSet) : WrittenSet :=
  match s.joined with
  | none => s.recent
  | some (earlier, o) =>
    ⟨o.join f earlier.set s.recent.set, max earlier.height s.recent.height + 1⟩

/-- The bracket behind an operator. -/
def operate (f : Flags) (o : SetOperator) (s : OpenSet) : OpenSet :=
  { negated := s.negated, joined := some (s.contents f, o) }

/-- The set of the bracket when it is closed; without Unicode it cannot be a complement. -/
def close? (f : Flags) (s : OpenSet) : Option WrittenSet :=
  let contents := s.contents f
  if s.negated && !f.unicode then none
  else some ⟨CharSet.negateIf s.negated (f.foldCase contents.set), contents.height + 1⟩

end OpenSet

/-! ## Groups -/

/-- What has been read of a group: the alternatives that are complete and the items of the
current one, both last first. -/
structure Frame where
  flags : Flags
  captures : Bool := false
  alternatives : List Tree := []
  items : List Tree := []
  /-- Whether the last thing read is an item, which can be repeated. -/
  repeatable : Bool := false
deriving Repr

namespace Frame

/-- The frame with one more item. -/
def push (f : Frame) (t : Tree) : Frame :=
  { f with items := t :: f.items, repeatable := true }

/-- The frame with its last item repeated, if there is one to repeat. -/
def repeat? (f : Frame) (least : Nat) (most : Option Nat) (isLazy : Bool) : Option Frame :=
  match f.repeatable, f.items with
  | true, t :: items =>
    some { f with items := .repeated t least most (isLazy != f.flags.swapGreed) :: items }
  | _, _ => none

/-- The current alternative as one tree. -/
def current (f : Frame) : Tree :=
  .ofItems f.items.reverse

/-- The frame at the start of another alternative. -/
def bar (f : Frame) : Frame :=
  { f with alternatives := f.current :: f.alternatives, items := [], repeatable := false }

/-- The frame under changed flags, which count as an item. -/
def setFlags (f : Frame) (changes : FlagChanges) : Frame :=
  { f with flags := f.flags.apply changes, items := .empty :: f.items, repeatable := false }

/-- The inside of the group as one tree. -/
def close (f : Frame) : Tree :=
  .ofAlternatives (f.current :: f.alternatives).reverse

end Frame

/-! ## The whole expression -/

/-- What has been read of an expression. -/
structure Reading where
  frame : Frame
  outer : List Frame := []
  sets : List OpenSet := []
  names : List Text := []
deriving Repr

namespace Reading

/-- The flags in force. -/
def flags (s : Reading) : Flags := s.frame.flags

/-- The reading with one more item in the innermost group. -/
def push (s : Reading) (t : Tree) : Reading :=
  { s with frame := s.frame.push t }

/-- An item, as a member of the innermost bracket or else on its own. -/
def pushItem? (s : Reading) (i : Item) : Option Reading :=
  match s.sets with
  | [] => (i.set? s.flags).map fun set => s.push (.set set s.flags.alphabet 0)
  | inner :: sets =>
    (i.member? s.flags).map fun set => { s with sets := inner.add ⟨set, 0⟩ :: sets }

/-- A bracket that has been closed, as a member of the one around it or else on its own. -/
def pushSet (s : Reading) (w : WrittenSet) : Reading :=
  match s.sets with
  | [] => s.push (.set w.set s.flags.alphabet w.height)
  | inner :: sets => { s with sets := inner.add w :: sets }

/-- The assertion of a line's edge, of the text's unless lines are on their own. -/
def edge (s : Reading) (line anyLine whole : Assertion) : Reading :=
  s.push (.assertion
    (if s.flags.multiLine then (if s.flags.anyNewline then anyLine else line) else whole))

/-- The reading inside a group that has just been opened. -/
def enter (s : Reading) (captures : Bool) (flags : Flags) : Reading :=
  { s with frame := { flags := flags, captures := captures }, outer := s.frame :: s.outer }

/-- The reading after one more token. -/
def step? (s : Reading) (token : Token) : Option Reading :=
  match token with
  | .item i => s.pushItem? i
  | .dot => s.flags.dot?.map fun set => s.push (.set set s.flags.alphabet 0)
  | .caret => some (s.edge .lineStart .anyLineStart .textStart)
  | .dollar => some (s.edge .lineEnd .anyLineEnd .textEnd)
  | .textStart => some (s.push (.assertion .textStart))
  | .textEnd => some (s.push (.assertion .textEnd))
  | .word e => some (s.push (.assertion (.word e s.flags.alphabet)))
  | .captureOpen name =>
    if name.any s.names.contains then none
    else some { s.enter true s.flags with names := name.toList ++ s.names }
  | .groupOpen changes => some (s.enter false (s.flags.apply changes))
  | .flags changes => some { s with frame := s.frame.setFlags changes }
  | .groupClose =>
    match s.outer with
    | [] => none
    | f :: outer =>
      some { s with frame := f.push (.group s.frame.captures s.frame.close), outer := outer }
  | .bar => some { s with frame := s.frame.bar }
  | .repetition least most isLazy =>
    (s.frame.repeat? least most isLazy).map fun frame => { s with frame := frame }
  | .setOpen negated first =>
    let opened := first.foldl (fun set c => set.add ⟨.char c, 0⟩) ({ negated := negated } : OpenSet)
    some { s with sets := opened :: s.sets }
  | .setOperator o =>
    match s.sets with
    | [] => none
    | inner :: sets => some { s with sets := inner.operate s.flags o :: sets }
  | .setClose =>
    match s.sets with
    | [] => none
    | inner :: sets => (inner.close? s.flags).map fun w => pushSet { s with sets := sets } w

/-- The tree, if no group is left open. -/
def finish? (s : Reading) : Option Tree :=
  if s.outer.isEmpty ∧ s.sets.isEmpty then some s.frame.close else none

end Reading

/-- The tree that a text stands for under some flags, if there is one. -/
def readTree? (flags : Flags) (t : Text) : Option Tree := do
  let tokens ← readTokens? t
  let reading ← tokens.foldlM Reading.step? { frame := { flags := flags } }
  reading.finish?

/-- The expression that a text stands for, if it is one; `fits` says which trees are allowed. -/
def readWithin? (fits : Tree → Bool) (t : Text) : Option Regex :=
  (readTree? {} t).bind fun tree => if fits tree then some tree.regex else none

/-- The expression that a text stands for, if it is one and there is room for it. -/
def read? (t : Text) : Option Regex :=
  readWithin? Tree.fits t

end AnswerKey.Regex
