import AnswerKey.Proofs.Regex.Tail
import AnswerKey.Regex.Reader
import Mathlib.Data.List.Forall2

/-!
# Reading inside a group

What a text reads as inside a group that changes no flags is what it reads as by itself.
The surroundings of a token differ only in groups that are no longer looked at, and a
reading carries the groups around it along untouched.  Which texts can be read at all does
not depend on the flags that only change what a set contains.
-/

namespace AnswerKey.Regex

/-! ## Surroundings -/

namespace Surroundings

variable {s s' : Surroundings}

/-- Surroundings that no token can tell apart: groups that are not spread out may stand around
one of them and not around the other. -/
structure Alike (s s' : Surroundings) : Prop where
  depth : s.depth = s'.depth
  verbose : s.verbose = s'.verbose
  outer : ∀ n, s.outer.getD n false = s'.outer.getD n false

/-- The innermost group around both is spread out in both or in neither. -/
theorem Alike.headD (h : s.Alike s') : s.outer.headD false = s'.outer.headD false := by
  have hfirst := h.outer 0
  cases hs : s.outer <;> cases hs' : s'.outer <;> simp_all

theorem Alike.tail (h : s.Alike s') (n : Nat) :
    s.outer.tail.getD n false = s'.outer.tail.getD n false := by
  have hnext := h.outer (n + 1)
  cases hs : s.outer <;> cases hs' : s'.outer <;> simp_all

theorem Alike.cons (h : s.Alike s') (b : Bool) (n : Nat) :
    (b :: s.outer).getD n false = (b :: s'.outer).getD n false := by
  cases n with
  | zero => rfl
  | succ n => exact h.outer n

/-- The same token keeps surroundings indistinguishable. -/
theorem Alike.after (h : s.Alike s') (token : Token) : (s.after token).Alike (s'.after token) := by
  cases token with
  | setOpen => exact ⟨congrArg (· + 1) h.depth, h.verbose, h.outer⟩
  | setClose => exact ⟨congrArg (· - 1) h.depth, h.verbose, h.outer⟩
  | captureOpen =>
    refine ⟨h.depth, h.verbose, fun n => ?_⟩
    show (s.verbose :: s.outer).getD n false = (s'.verbose :: s'.outer).getD n false
    rw [h.verbose, h.cons]
  | groupOpen changes =>
    refine ⟨h.depth, congrArg (changes.apply .verbose) h.verbose, fun n => ?_⟩
    show (s.verbose :: s.outer).getD n false = (s'.verbose :: s'.outer).getD n false
    rw [h.verbose, h.cons]
  | flags changes => exact ⟨h.depth, congrArg (changes.apply .verbose) h.verbose, h.outer⟩
  | groupClose => exact ⟨h.depth, h.headD, h.tail⟩
  | _ => exact h

end Surroundings

/-- Surroundings that no token can tell apart read the same tokens. -/
theorem readTokensWithin?_alike {s s' : Surroundings} (h : s.Alike s') (budget : Nat) (t : Text) :
    readTokensWithin? budget s t = readTokensWithin? budget s' t := by
  induction budget generalizing s s' t with
  | zero =>
    cases hskip : skipSpread s.verbose t with
    | nil =>
      rw [readTokensWithin?_of_blank hskip, readTokensWithin?_of_blank (h.verbose ▸ hskip), h.depth]
    | cons c rest =>
      rw [readTokensWithin?_zero_of_sign hskip, readTokensWithin?_zero_of_sign (h.verbose ▸ hskip)]
  | succ budget ih =>
    cases hskip : skipSpread s.verbose t with
    | nil =>
      rw [readTokensWithin?_of_blank hskip, readTokensWithin?_of_blank (h.verbose ▸ hskip), h.depth]
    | cons c rest =>
      have htoken : s.readToken? = s'.readToken? := by
        funext t
        rw [Surroundings.readToken?, Surroundings.readToken?, h.depth, h.verbose]
      rw [readTokensWithin?_of_sign hskip, readTokensWithin?_of_sign (h.verbose ▸ hskip), htoken]
      congr 1
      funext read
      rw [ih (h.after read.1)]

/-- No bracket is open behind the last token. -/
theorem readTokensWithin?_depth {budget : Nat} {s : Surroundings} {t : Text} {ts : List Token}
    (h : readTokensWithin? budget s t = some ts) : (s.afterAll ts).depth = 0 := by
  induction ts generalizing s t budget with
  | nil =>
    rcases readTokensWithin?_cases h with ⟨-, hdepth, -⟩ | ⟨_, _, _, _, _, _, -, -, hts, -, -⟩
    · exact hdepth
    · cases hts
  | cons token ts ih =>
    rcases readTokensWithin?_cases h with
      ⟨-, -, hts⟩ | ⟨_, _, _, rest, more, _, -, -, hts, -, hrest⟩
    · cases hts
    obtain ⟨rfl, rfl⟩ := List.cons.inj hts
    exact ih hrest

/-! ## Groups around a reading -/

namespace Reading

variable {s r : Reading} {token : Token} {ts : List Token}

/-- The reading inside some more groups, innermost first. -/
def within (s : Reading) (more : List Frame) : Reading :=
  { s with outer := s.outer ++ more }

/-- The reading after some more tokens. -/
def run? (s : Reading) (ts : List Token) : Option Reading :=
  ts.foldlM step? s

theorem run?_cons : s.run? (token :: ts) = (s.step? token).bind fun r => r.run? ts := rfl

/-- What comes later is read from where the first tokens have led. -/
theorem run?_append {more : List Token} :
    s.run? (ts ++ more) = (s.run? ts).bind fun r => r.run? more :=
  List.foldlM_append

/-- A reading goes on in the same way inside some more groups. -/
theorem step?_within (h : s.step? token = some r) (more : List Frame) :
    (s.within more).step? token = some (r.within more) := by
  cases token with
  | item i =>
    obtain ⟨frame, outer, sets, names⟩ := s
    cases sets with
    | nil =>
      obtain ⟨set, hset, rfl⟩ := Option.map_eq_some_iff.1 h
      exact congrArg (Option.map _) hset
    | cons inner sets =>
      obtain ⟨set, hset, rfl⟩ := Option.map_eq_some_iff.1 h
      exact congrArg (Option.map _) hset
  | dot =>
    obtain ⟨set, hset, rfl⟩ := Option.map_eq_some_iff.1 h
    exact congrArg (Option.map _) hset
  | captureOpen name =>
    unfold step? at h ⊢
    simp only at h ⊢
    split at h
    · cases h
    · next hfresh =>
      cases h
      exact if_neg hfresh
  -- the only token that looks at the groups around needs but one of them
  | groupClose =>
    obtain ⟨frame, outer, sets, names⟩ := s
    cases outer with
    | nil => cases h
    | cons f outer =>
      cases h
      rfl
  | repetition least most isLazy =>
    obtain ⟨frame, hframe, rfl⟩ := Option.map_eq_some_iff.1 h
    exact congrArg (Option.map _) hframe
  | setOperator o =>
    obtain ⟨frame, outer, sets, names⟩ := s
    cases sets with
    | nil => cases h
    | cons inner sets =>
      cases h
      rfl
  | setClose =>
    obtain ⟨frame, outer, sets, names⟩ := s
    cases sets with
    | nil => cases h
    | cons inner sets =>
      obtain ⟨w, hw, rfl⟩ := Option.map_eq_some_iff.1 h
      cases sets with
      | nil => exact congrArg (Option.map _) hw
      | cons => exact congrArg (Option.map _) hw
  | _ =>
    cases h
    rfl

/-- So does a whole reading, since each of its steps does. -/
theorem run?_within (h : s.run? ts = some r) (more : List Frame) :
    (s.within more).run? ts = some (r.within more) := by
  induction ts generalizing s with
  | nil =>
    cases h
    rfl
  | cons token ts ih =>
    rw [run?_cons] at h ⊢
    obtain ⟨u, hu, h⟩ := Option.bind_eq_some_iff.1 h
    rw [step?_within hu more]
    exact ih h

/-! ## The outermost group -/

/-- The frame of what stands in no group of the reading. -/
def outermost (s : Reading) : Frame :=
  s.outer.getLastD s.frame

/-- The outermost group captures as much as before if the same groups are open. -/
theorem outermost_captures (houter : r.outer = s.outer) (h : r.frame.captures = s.frame.captures) :
    r.outermost.captures = s.outermost.captures := by
  unfold outermost
  rw [houter]
  cases s.outer with
  | nil => exact h
  | cons => rfl

/-- A token never changes whether the outermost group captures: what it opens stands inside. -/
theorem step?_outermost_captures (h : s.step? token = some r) :
    r.outermost.captures = s.outermost.captures := by
  cases token with
  | item i =>
    obtain ⟨frame, outer, sets, names⟩ := s
    cases sets with
    | nil =>
      obtain ⟨set, -, rfl⟩ := Option.map_eq_some_iff.1 h
      exact outermost_captures rfl rfl
    | cons inner sets =>
      obtain ⟨set, -, rfl⟩ := Option.map_eq_some_iff.1 h
      rfl
  | dot =>
    obtain ⟨set, -, rfl⟩ := Option.map_eq_some_iff.1 h
    exact outermost_captures rfl rfl
  | captureOpen name =>
    -- a group that is opened stands inside of the outermost one
    unfold step? at h
    simp only at h
    split at h
    · cases h
    · cases h
      exact congrArg Frame.captures (List.getLastD_cons ..)
  | groupOpen =>
    cases h
    exact congrArg Frame.captures (List.getLastD_cons ..)
  | groupClose =>
    obtain ⟨frame, outer, sets, names⟩ := s
    cases outer with
    | nil => cases h
    | cons f outer =>
      cases h
      rw [outermost, outermost, List.getLastD_cons]
      exact outermost_captures (s := ⟨f, outer, sets, names⟩) rfl rfl
  | repetition least most isLazy =>
    obtain ⟨frame, hframe, rfl⟩ := Option.map_eq_some_iff.1 h
    refine outermost_captures rfl ?_
    unfold Frame.repeat? at hframe
    split at hframe
    · cases hframe
      rfl
    · cases hframe
  | setOperator o =>
    obtain ⟨frame, outer, sets, names⟩ := s
    cases sets with
    | nil => cases h
    | cons inner sets =>
      cases h
      rfl
  | setClose =>
    obtain ⟨frame, outer, sets, names⟩ := s
    cases sets with
    | nil => cases h
    | cons inner sets =>
      obtain ⟨w, -, rfl⟩ := Option.map_eq_some_iff.1 h
      cases sets with
      | nil => exact outermost_captures rfl rfl
      | cons => rfl
  | setOpen =>
    cases h
    rfl
  | _ =>
    cases h
    exact outermost_captures rfl rfl

/-- Whether the outermost group captures is settled before anything is read. -/
theorem run?_outermost_captures (h : s.run? ts = some r) :
    r.outermost.captures = s.outermost.captures := by
  induction ts generalizing s with
  | nil =>
    cases h
    rfl
  | cons token ts ih =>
    rw [run?_cons] at h
    obtain ⟨u, hu, h⟩ := Option.bind_eq_some_iff.1 h
    rw [ih h, step?_outermost_captures hu]

end Reading

/-! ## Flags that do not decide what can be read -/

variable {f g : Flags} {a b : Frame} {s r s' : Reading} {token : Token} {ts : List Token}

theorem exists_eq_some_of_isSome_eq {α : Type} {x y : Option α} {z : α}
    (h : x.isSome = y.isSome) (hx : x = some z) : ∃ z', y = some z' := by
  rw [← Option.isSome_iff_exists, ← h, hx]
  rfl

/-- Whether an item may stand in a bracket is a question of Unicode alone. -/
theorem Item.member?_isSome (h : f.unicode = g.unicode) (i : Item) :
    (i.member? f).isSome = (i.member? g).isSome := by
  cases i <;> simp only [Item.member?, h] <;> split <;> rfl

/-- Whether an item may stand outside of brackets is a question of Unicode alone. -/
theorem Item.set?_isSome (h : f.unicode = g.unicode) (i : Item) :
    (i.set? f).isSome = (i.set? g).isSome := by
  cases i with
  | literal c => rfl
  | byte c =>
    simp only [Item.set?, h]
    split <;> rfl
  | range low high => exact Item.member?_isSome h (.range low high)
  | letterClass k negated => exact Item.member?_isSome h (.letterClass k negated)
  | asciiClass k negated => exact Item.member?_isSome h (.asciiClass k negated)
  | property p negated => exact Item.member?_isSome h (.property p negated)

/-- Whether a dot can be read is a question of Unicode alone. -/
theorem Flags.dot?_isSome (h : f.unicode = g.unicode) : f.dot?.isSome = g.dot?.isSome := by
  unfold Flags.dot?
  rw [h]
  cases g.unicode with
  | false => rfl
  | true => cases f.dotAll <;> cases g.dotAll <;> cases f.anyNewline <;> cases g.anyNewline <;> rfl

/-- Whether a bracket can be closed is a question of Unicode and of its own negation. -/
theorem OpenSet.close?_isSome {x y : OpenSet} (h : f.unicode = g.unicode)
    (hneg : x.negated = y.negated) : (x.close? f).isSome = (y.close? g).isSome := by
  simp only [OpenSet.close?, h, hneg]
  split <;> rfl

/-- Frames that the same tokens can follow. -/
structure Frame.Alike (a b : Frame) : Prop where
  unicode : a.flags.unicode = b.flags.unicode
  items : a.items.length = b.items.length
  repeatable : a.repeatable = b.repeatable

/-- Readings that the same tokens can follow. -/
structure Reading.Alike (s s' : Reading) : Prop where
  frame : s.frame.Alike s'.frame
  outer : List.Forall₂ Frame.Alike s.outer s'.outer
  sets : List.Forall₂ (fun x y => OpenSet.negated x = OpenSet.negated y) s.sets s'.sets
  names : s.names = s'.names

theorem Frame.Alike.push (h : a.Alike b) (t u : Tree) : (a.push t).Alike (b.push u) :=
  ⟨h.unicode, congrArg (· + 1) h.items, rfl⟩

theorem Frame.Alike.bar (h : a.Alike b) : a.bar.Alike b.bar :=
  ⟨h.unicode, rfl, rfl⟩

theorem Flags.apply_unicode (h : f.unicode = g.unicode) (changes : FlagChanges) :
    (f.apply changes).unicode = (g.apply changes).unicode :=
  congrArg (changes.apply .unicode) h

/-- The same changes of flags keep frames alike. -/
theorem Frame.Alike.setFlags (h : a.Alike b) (changes : FlagChanges) :
    (a.setFlags changes).Alike (b.setFlags changes) :=
  ⟨Flags.apply_unicode h.unicode changes, congrArg (· + 1) h.items, rfl⟩

/-- What can be repeated in one frame can be repeated in a frame that is alike. -/
theorem Frame.Alike.repeat? (h : a.Alike b) {least : Nat} {most : Option Nat} {isLazy : Bool}
    {a' : Frame} (ha : a.repeat? least most isLazy = some a') :
    ∃ b', b.repeat? least most isLazy = some b' ∧ a'.Alike b' := by
  obtain ⟨flags, captures, alternatives, items, repeatable⟩ := a
  obtain ⟨flags', captures', alternatives', items', repeatable'⟩ := b
  obtain ⟨hunicode, hitems, hrepeatable⟩ := h
  cases hrepeatable
  cases repeatable with
  | false => cases ha
  | true =>
    cases items with
    | nil => cases ha
    | cons t items =>
      cases items' with
      | nil => cases hitems
      | cons t' items' =>
        cases ha
        exact ⟨_, rfl, hunicode, hitems, rfl⟩

namespace Reading.Alike

theorem push (h : s.Alike s') (t u : Tree) : (s.push t).Alike (s'.push u) :=
  ⟨h.frame.push t u, h.outer, h.sets, h.names⟩

/-- Readings that are alike stay so in a group whose flags agree about Unicode. -/
theorem enter (h : s.Alike s') (captures : Bool) (hfg : f.unicode = g.unicode) :
    (s.enter captures f).Alike (s'.enter captures g) :=
  ⟨⟨hfg, rfl, rfl⟩, .cons h.frame h.outer, h.sets, h.names⟩

/-- An item that one reading takes is taken by a reading that is alike. -/
theorem pushItem? (h : s.Alike s') {i : Item} (hs : s.pushItem? i = some r) :
    ∃ r', s'.pushItem? i = some r' ∧ r.Alike r' := by
  obtain ⟨frame, outer, sets, names⟩ := s
  obtain ⟨frame', outer', sets', names'⟩ := s'
  cases h.sets with
  | nil =>
    obtain ⟨set, hset, rfl⟩ := Option.map_eq_some_iff.1 hs
    obtain ⟨set', hset'⟩ := exists_eq_some_of_isSome_eq (Item.set?_isSome h.frame.unicode i) hset
    exact ⟨_, congrArg (Option.map _) hset', h.push _ _⟩
  | cons hneg hsets =>
    obtain ⟨set, hset, rfl⟩ := Option.map_eq_some_iff.1 hs
    obtain ⟨set', hset'⟩ := exists_eq_some_of_isSome_eq (Item.member?_isSome h.frame.unicode i) hset
    exact ⟨_, congrArg (Option.map _) hset', h.frame, h.outer, .cons hneg hsets, h.names⟩

theorem pushSet (h : s.Alike s') (w w' : WrittenSet) : (s.pushSet w).Alike (s'.pushSet w') := by
  obtain ⟨frame, outer, sets, names⟩ := s
  obtain ⟨frame', outer', sets', names'⟩ := s'
  cases h.sets with
  | nil => exact h.push _ _
  | cons hneg hsets => exact ⟨h.frame, h.outer, .cons hneg hsets, h.names⟩

end Reading.Alike

/-- What can be read next is the same in readings that are alike, and they stay alike. -/
theorem Reading.Alike.step? (h : s.Alike s') (hs : s.step? token = some r) :
    ∃ r', s'.step? token = some r' ∧ r.Alike r' := by
  cases token with
  | item i => exact h.pushItem? hs
  | dot =>
    obtain ⟨set, hset, rfl⟩ := Option.map_eq_some_iff.1 hs
    obtain ⟨set', hset'⟩ := exists_eq_some_of_isSome_eq (Flags.dot?_isSome h.frame.unicode) hset
    exact ⟨_, congrArg (Option.map _) hset', h.push _ _⟩
  | caret | dollar | textStart | textEnd | word =>
    cases hs
    exact ⟨_, rfl, h.push _ _⟩
  -- a name is new in one reading if it is in the other
  | captureOpen name =>
    unfold Reading.step? at hs ⊢
    simp only [← h.names] at hs ⊢
    split at hs
    · cases hs
    · next hfresh =>
      cases hs
      have hin := h.enter true h.frame.unicode
      exact ⟨_, if_neg hfresh, hin.frame, hin.outer, hin.sets, by rw [h.names]⟩
  | groupOpen changes =>
    cases hs
    exact ⟨_, rfl, h.enter false (Flags.apply_unicode h.frame.unicode changes)⟩
  | flags changes =>
    cases hs
    exact ⟨_, rfl, h.frame.setFlags changes, h.outer, h.sets, h.names⟩
  | groupClose =>
    obtain ⟨frame, outer, sets, names⟩ := s
    obtain ⟨frame', outer', sets', names'⟩ := s'
    cases h.outer with
    | nil => cases hs
    | cons hf houter =>
      cases hs
      exact ⟨_, rfl, hf.push _ _, houter, h.sets, h.names⟩
  | bar =>
    cases hs
    exact ⟨_, rfl, h.frame.bar, h.outer, h.sets, h.names⟩
  | repetition least most isLazy =>
    obtain ⟨frame, hframe, rfl⟩ := Option.map_eq_some_iff.1 hs
    obtain ⟨frame', hframe', halike⟩ := h.frame.repeat? hframe
    exact ⟨_, congrArg (Option.map _) hframe', halike, h.outer, h.sets, h.names⟩
  | setOpen negated first =>
    cases hs
    exact ⟨_, rfl, h.frame, h.outer, .cons rfl h.sets, h.names⟩
  | setOperator o =>
    obtain ⟨frame, outer, sets, names⟩ := s
    obtain ⟨frame', outer', sets', names'⟩ := s'
    cases h.sets with
    | nil => cases hs
    | cons hneg hsets =>
      cases hs
      exact ⟨_, rfl, h.frame, h.outer, .cons hneg hsets, h.names⟩
  | setClose =>
    obtain ⟨frame, outer, sets, names⟩ := s
    obtain ⟨frame', outer', sets', names'⟩ := s'
    cases h.sets with
    | nil => cases hs
    | cons hneg hsets =>
      obtain ⟨w, hw, rfl⟩ := Option.map_eq_some_iff.1 hs
      have hclose := OpenSet.close?_isSome h.frame.unicode hneg
      obtain ⟨w', hw'⟩ := exists_eq_some_of_isSome_eq hclose hw
      refine ⟨_, congrArg (Option.map _) hw', Reading.Alike.pushSet ?_ w w'⟩
      exact ⟨h.frame, h.outer, hsets, h.names⟩

/-- Readings that are alike take the same tokens. -/
theorem Reading.Alike.run? (h : s.Alike s') (hs : s.run? ts = some r) :
    ∃ r', s'.run? ts = some r' ∧ r.Alike r' := by
  induction ts generalizing s s' with
  | nil =>
    cases hs
    exact ⟨s', rfl, h⟩
  | cons token ts ih =>
    rw [Reading.run?_cons] at hs
    obtain ⟨u, hu, hs⟩ := Option.bind_eq_some_iff.1 hs
    obtain ⟨u', hu', halike⟩ := h.step? hu
    rw [Reading.run?_cons, hu']
    exact ih halike hs

/-! ## Whole expressions -/

variable {t : Text} {tree : Tree}

/-- The reading at the start of an expression. -/
def Reading.start (f : Flags) : Reading :=
  { frame := { flags := f } }

theorem readTree?_eq : readTree? f t =
    (readTokens? t).bind fun ts => ((Reading.start f).run? ts).bind Reading.finish? := rfl

/-- What there is behind the last token of an expression. -/
theorem readTree?_cases (h : readTree? f t = some tree) :
    ∃ ts frame names, readTokens? t = some ts ∧
      (Reading.start f).run? ts = some { frame := frame, names := names } ∧
      frame.captures = false ∧ frame.close = tree := by
  rw [readTree?_eq] at h
  obtain ⟨ts, hts, h⟩ := Option.bind_eq_some_iff.1 h
  obtain ⟨⟨frame, outer, sets, names⟩, hr, h⟩ := Option.bind_eq_some_iff.1 h
  unfold Reading.finish? at h
  split at h
  · next hclosed =>
    obtain ⟨houter, hsets⟩ := hclosed
    cases List.isEmpty_iff.1 houter
    cases List.isEmpty_iff.1 hsets
    cases h
    exact ⟨ts, frame, names, hts, hr, Reading.run?_outermost_captures hr, rfl⟩
  · cases h

/-- Which texts are expressions does not depend on the flags that the alphabet does not depend
on. -/
theorem readTree?_alike (hfg : f.unicode = g.unicode) (h : readTree? f t = some tree) :
    ∃ tree', readTree? g t = some tree' := by
  obtain ⟨ts, frame, names, hts, hr, -, -⟩ := readTree?_cases h
  have hstart : (Reading.start f).Alike (Reading.start g) := ⟨⟨hfg, rfl, rfl⟩, .nil, .nil, rfl⟩
  obtain ⟨⟨frame', outer', sets', names'⟩, hr', -, houter, hsets, -⟩ := hstart.run? hr
  cases houter
  cases hsets
  exact ⟨frame'.close, by rw [readTree?_eq, hts, Option.bind_some, hr']; rfl⟩

end AnswerKey.Regex
