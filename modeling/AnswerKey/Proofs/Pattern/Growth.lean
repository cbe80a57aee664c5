import AnswerKey.Proofs.Pattern.Part
import AnswerKey.Proofs.Regex.Group
import AnswerKey.Proofs.Regex.Inclusion

/-!
# Readings that grow

An expression and the same one with room for its signs are read side by side.  What has been read of
the wider one matches more at every point: the items of groups do, and the members of brackets are
more or fewer according to how many of the brackets around them are negated.
-/

namespace AnswerKey.Pattern

open Regex

variable {p : Place} {r q r' : Reading} {f g : Frame} {t u : Tree} {token : Token}

/-! ## Brackets -/

/-- An open bracket with more members than another one, or fewer, and no operators in either. -/
structure SetWithin (up : Bool) (a b : OpenSet) : Prop where
  negated : a.negated = b.negated
  joined : a.joined = none
  joined_wide : b.joined = none
  members : CharSet.Directed up a.members.set b.members.set

/-- Open brackets, innermost first, where negation turns the direction around. -/
inductive SetsWithin : List Bool → List OpenSet → List OpenSet → Prop where
  | nil : SetsWithin [] [] []
  | cons {negated : Bool} {nesting : List Bool} {a b : OpenSet} {as bs : List OpenSet} :
      a.negated = negated → SetWithin (Place.grows (negated :: nesting)) a b →
        SetsWithin nesting as bs → SetsWithin (negated :: nesting) (a :: as) (b :: bs)

theorem SetWithin.add {up : Bool} {a b : OpenSet} (h : SetWithin up a b) {w v : WrittenSet}
    (hwv : CharSet.Directed up w.set v.set) : SetWithin up (a.add w) (b.add v) :=
  ⟨h.negated, h.joined, h.joined_wide, h.members.union hwv⟩

/-- A bracket with some more members. -/
def addAll (a : OpenSet) (ws : List WrittenSet) : OpenSet :=
  ws.foldl OpenSet.add a

theorem negated_addAll (ws : List WrittenSet) (a : OpenSet) :
    (addAll a ws).negated = a.negated := by
  induction ws generalizing a with
  | nil => rfl
  | cons w ws ih => exact ih (a.add w)

theorem joined_addAll (ws : List WrittenSet) (a : OpenSet) : (addAll a ws).joined = a.joined := by
  induction ws generalizing a with
  | nil => rfl
  | cons w ws ih => exact ih (a.add w)

/-- A bracket holds what it held and what each of its new members holds. -/
theorem contains_addAll {ws : List WrittenSet} {a : OpenSet} {x : Char} :
    (addAll a ws).members.set.contains x = true ↔
      a.members.set.contains x = true ∨ ∃ w ∈ ws, w.set.contains x = true := by
  induction ws generalizing a with
  | nil => simp [addAll]
  | cons w ws ih =>
    have hadd : addAll a (w :: ws) = addAll (a.add w) ws := rfl
    rw [hadd, ih]
    simp [OpenSet.add, CharSet.contains, or_assoc]

/-- Characters as members of a bracket. -/
def plainMembers (cs : List Char) : List WrittenSet :=
  cs.map fun c => ⟨.char c, 0⟩

/-- A bracket that has just been opened has the same members on both sides. -/
theorem SetWithin.opened (up negated : Bool) (first : List Char) :
    SetWithin up (addAll { negated := negated } (plainMembers first))
      (addAll { negated := negated } (plainMembers first)) :=
  ⟨rfl, joined_addAll _ _, joined_addAll _ _, .refl up _⟩

/-- Without operators the contents of a bracket are its members. -/
theorem contents_set {a : OpenSet} (h : a.joined = none) (f : Flags) :
    (a.contents f).set = a.members.set := by
  unfold OpenSet.contents
  rw [h]
  simp only [OpenSet.recent]
  split <;> rfl

/-- A bracket is closed in the direction that its own negation turns around. -/
theorem SetWithin.close? {up : Bool} {a b : OpenSet} {f : Flags} {w : WrittenSet}
    (h : SetWithin (a.negated ^^ up) a b) (hw : a.close? f = some w) :
    ∃ v, b.close? f = some v ∧ CharSet.Directed up w.set v.set := by
  unfold OpenSet.close? at hw ⊢
  rw [h.negated] at hw
  simp only at hw ⊢
  split at hw
  · cases hw
  · next hunicode =>
    cases hw
    refine ⟨_, if_neg hunicode, ?_⟩
    have hfold := (h.members.foldCase f).negateIf a.negated
    rw [← Bool.xor_assoc, Bool.xor_self, Bool.false_xor] at hfold
    simpa only [contents_set h.joined, contents_set h.joined_wide, ← h.negated] using hfold

/-! ## Frames -/

/-- What has been read of a group, and what has been read of the wider one. -/
structure FrameWithin (f g : Frame) : Prop where
  flags : f.flags = g.flags
  alternatives : List.Forall₂ Tree.Within f.alternatives g.alternatives
  items : Tree.ItemsWithin f.items g.items

/-- The last item of one frame is no more than that of the other, so that both can be repeated. -/
def LastWithin (f g : Frame) : Prop :=
  g.repeatable = true ∧ ∃ t u ts us, f.items = t :: ts ∧ g.items = u :: us ∧ t.Within u ∧
    Tree.ItemsWithin ts us

namespace FrameWithin

theorem push (h : FrameWithin f g) (htu : t.Within u) : FrameWithin (f.push t) (g.push u) :=
  ⟨h.flags, h.alternatives, .cons htu h.items⟩

/-- What has just been pushed can be repeated on both sides. -/
theorem last_push (h : FrameWithin f g) (htu : t.Within u) : LastWithin (f.push t) (g.push u) :=
  ⟨rfl, t, u, f.items, g.items, rfl, rfl, htu, h.items⟩

theorem current (h : FrameWithin f g) : f.current.Within g.current := by
  unfold Tree.Within Frame.current
  rw [Tree.regex_ofItems, Tree.regex_ofItems]
  exact h.items.sequence

theorem bar (h : FrameWithin f g) : FrameWithin f.bar g.bar :=
  ⟨h.flags, .cons h.current h.alternatives, .nil⟩

theorem setFlags (h : FrameWithin f g) (changes : FlagChanges) :
    FrameWithin (f.setFlags changes) (g.setFlags changes) :=
  ⟨congrArg (Flags.apply · changes) h.flags, h.alternatives, .cons (.refl _) h.items⟩

theorem close (h : FrameWithin f g) : f.close.Within g.close := by
  apply Tree.within_ofAlternatives
  exact List.rel_reverse (.cons h.current h.alternatives)

/-- A repetition of the last item keeps one frame within the other, and can itself be repeated. -/
theorem repeat? (h : FrameWithin f g) (hlast : LastWithin f g) {least : Nat} {most : Option Nat}
    {isLazy : Bool} {f' : Frame} (hf : f.repeat? least most isLazy = some f') :
    ∃ g', g.repeat? least most isLazy = some g' ∧ FrameWithin f' g' ∧ LastWithin f' g' := by
  obtain ⟨flags, captures, alternatives, items, repeatable⟩ := f
  obtain ⟨flags', captures', alternatives', items', repeatable'⟩ := g
  obtain ⟨hrepeatable, t, u, ts, us, ht, hu, htu, hitems⟩ := hlast
  cases hrepeatable
  cases ht
  cases hu
  cases repeatable with
  | false => cases hf
  | true =>
    cases hf
    have hrounds := htu.repeated least most
    refine ⟨_, rfl, ⟨h.flags, h.alternatives, .cons (hrounds _ _) hitems⟩, ?_⟩
    exact ⟨rfl, _, _, _, _, rfl, rfl, hrounds _ _, hitems⟩

end FrameWithin

/-! ## Readings -/

/-- What has been read of an expression, and what has been read of the wider one. -/
structure ReadingWithin (p : Place) (r q : Reading) : Prop where
  frame : FrameWithin r.frame q.frame
  /-- Behind a doubled sign the last items differ in how much of the sign they stand for. -/
  last : p.doubled = false → r.frame.repeatable = true → LastWithin r.frame q.frame
  outer : List.Forall₂ FrameWithin r.outer q.outer
  sets : SetsWithin p.nesting r.sets q.sets
  names : r.names = q.names

namespace ReadingWithin

theorem flags (h : ReadingWithin p r q) : r.flags = q.flags :=
  h.frame.flags

theorem push (h : ReadingWithin p r q) (htu : t.Within u) (doubled : Bool) :
    ReadingWithin ⟨p.nesting, doubled⟩ (r.push t) (q.push u) :=
  ⟨h.frame.push htu, fun _ _ => h.frame.last_push htu, h.outer, h.sets, h.names⟩

theorem push_set (h : ReadingWithin p r q) (set : CharSet) (doubled : Bool) :
    ReadingWithin ⟨p.nesting, doubled⟩ (r.push (.set set r.flags.alphabet 0))
      (q.push (.set set q.flags.alphabet 0)) :=
  h.push (t := .set set _ _) (u := .set set _ _) (Regex.Within.refl (.chars set)) doubled

/-- What happens in brackets leaves the frames as they are. -/
theorem setSets (h : ReadingWithin p r q) {as bs : List OpenSet} {nesting : List Bool}
    (hne : nesting ≠ []) (hsets : SetsWithin nesting as bs) :
    ReadingWithin ⟨nesting, p.doubled && !nesting.isEmpty⟩ { r with sets := as }
      { q with sets := bs } := by
  refine ⟨h.frame, fun hd => h.last ?_, h.outer, hsets, h.names⟩
  rwa [List.isEmpty_eq_false_iff.2 hne, Bool.not_false, Bool.and_true] at hd

/-- An item stands in the innermost bracket or by itself, and is the same on both sides. -/
theorem pushItem? (h : ReadingWithin p r q) {i : Item} (hr : r.pushItem? i = some r') :
    ∃ q', q.pushItem? i = some q' ∧ ReadingWithin (p.after (.token (.item i))) r' q' := by
  obtain ⟨frame, outer, sets, names⟩ := r
  obtain ⟨frame', outer', sets', names'⟩ := q
  obtain ⟨nesting, doubled⟩ := p
  have hflags : frame.flags = frame'.flags := h.flags
  have hsets : SetsWithin nesting sets sets' := h.sets
  cases hsets with
  | nil =>
    obtain ⟨set, hset, rfl⟩ := Option.map_eq_some_iff.1 hr
    have hset' : i.set? frame'.flags = some set := hflags ▸ hset
    exact ⟨_, congrArg (Option.map _) hset', h.push_set set _⟩
  | cons hneg hset hsets =>
    obtain ⟨member, hmember, rfl⟩ := Option.map_eq_some_iff.1 hr
    have hmember' : i.member? frame'.flags = some member := hflags ▸ hmember
    have hadd := hset.add (w := ⟨member, 0⟩) (v := ⟨member, 0⟩) (.refl _ member)
    refine ⟨_, congrArg (Option.map _) hmember', h.setSets (List.cons_ne_nil _ _) ?_⟩
    exact .cons hneg hadd hsets

/-- A set that is closed becomes a member of the bracket around it or an item of its own. -/
theorem pushSet (h : ReadingWithin p r q) {w v : WrittenSet}
    (hwv : CharSet.Directed (Place.grows p.nesting) w.set v.set) :
    ReadingWithin ⟨p.nesting, p.doubled && !p.nesting.isEmpty⟩ (r.pushSet w) (q.pushSet v) := by
  obtain ⟨frame, outer, sets, names⟩ := r
  obtain ⟨frame', outer', sets', names'⟩ := q
  obtain ⟨nesting, doubled⟩ := p
  have hsets : SetsWithin nesting sets sets' := h.sets
  cases hsets with
  | nil =>
    have hchars : Regex.Within (.chars w.set) (.chars v.set) := .chars hwv
    exact h.push (t := .set w.set _ _) (u := .set v.set _ _) hchars _
  | cons hneg hset hsets =>
    refine h.setSets (List.cons_ne_nil _ _) ?_
    exact .cons hneg (hset.add hwv) hsets

/-- A group is entered with nothing read of it on either side. -/
theorem enter (h : ReadingWithin p r q) (captures : Bool) (f : Flags) (doubled : Bool) :
    ReadingWithin ⟨p.nesting, doubled⟩ (r.enter captures f) (q.enter captures f) where
  frame := ⟨rfl, .nil, .nil⟩
  last _ hr := nomatch hr
  outer := .cons h.frame h.outer
  sets := h.sets
  names := h.names

/-- The flags decide on both sides alike what a caret or a dollar stands for. -/
theorem edge (h : ReadingWithin p r q) (line anyLine whole : Assertion) (doubled : Bool) :
    ReadingWithin ⟨p.nesting, doubled⟩ (r.edge line anyLine whole) (q.edge line anyLine whole) := by
  unfold Reading.edge
  rw [h.flags]
  exact h.push (Regex.Within.refl _) doubled

theorem captureOpen (h : ReadingWithin p r q) {name : Option Text} (doubled : Bool)
    (hr : r.step? (.captureOpen name) = some r') :
    ∃ q', q.step? (.captureOpen name) = some q' ∧ ReadingWithin ⟨p.nesting, doubled⟩ r' q' := by
  unfold Reading.step? at hr ⊢
  simp only [h.names, h.flags] at hr ⊢
  split at hr
  · cases hr
  · next hfresh =>
    cases hr
    have hin := h.enter true q.flags doubled
    exact ⟨_, if_neg hfresh, hin.frame, hin.last, hin.outer, hin.sets, rfl⟩

/-- A group that is closed is pushed on the frame around it, wider than the other one. -/
theorem groupClose (h : ReadingWithin p r q) (doubled : Bool) (hr : r.step? .groupClose = some r') :
    ∃ q', q.step? .groupClose = some q' ∧ ReadingWithin ⟨p.nesting, doubled⟩ r' q' := by
  obtain ⟨frame, outer, sets, names⟩ := r
  obtain ⟨frame', outer', sets', names'⟩ := q
  have hclose : frame.close.Within frame'.close := h.frame.close
  have houter : List.Forall₂ FrameWithin outer outer' := h.outer
  cases houter with
  | nil => cases hr
  | cons hf houter =>
    cases hr
    refine ⟨_, rfl, hf.push ?_, fun _ _ => hf.last_push ?_, houter, h.sets, h.names⟩
    all_goals exact hclose

/-- A repetition applies to the last item, and that is wider unless it ends a doubled sign. -/
theorem repetition (h : ReadingWithin p r q) (hdoubled : p.doubled = false) {least : Nat}
    {most : Option Nat} {isLazy : Bool} (doubled : Bool)
    (hr : r.step? (.repetition least most isLazy) = some r') :
    ∃ q', q.step? (.repetition least most isLazy) = some q' ∧
      ReadingWithin ⟨p.nesting, doubled⟩ r' q' := by
  obtain ⟨frame, hframe, rfl⟩ := Option.map_eq_some_iff.1 hr
  have hrepeatable : r.frame.repeatable = true := by
    unfold Frame.repeat? at hframe
    split at hframe
    · assumption
    · cases hframe
  obtain ⟨frame', hframe', hwithin, hlast⟩ := h.frame.repeat? (h.last hdoubled hrepeatable) hframe
  exact ⟨_, congrArg (Option.map _) hframe', hwithin, fun _ _ => hlast, h.outer, h.sets, h.names⟩

theorem setOpen (h : ReadingWithin p r q) {negated : Bool} {first : List Char}
    (hr : r.step? (.setOpen negated first) = some r') :
    ∃ q', q.step? (.setOpen negated first) = some q' ∧
      ReadingWithin (p.after (.token (.setOpen negated first))) r' q' := by
  cases hr
  refine ⟨_, rfl, h.setSets (List.cons_ne_nil _ _) ?_⟩
  have hopened (a : OpenSet) : first.foldl (fun set c => set.add ⟨.char c, 0⟩) a =
      addAll a (plainMembers first) := List.foldl_map.symm
  rw [hopened]
  exact .cons (negated_addAll _ _) (.opened _ negated first) h.sets

/-- A bracket is closed on both sides, in its own direction. -/
theorem setClose (h : ReadingWithin p r q) (hr : r.step? .setClose = some r') :
    ∃ q', q.step? .setClose = some q' ∧ ReadingWithin (p.after (.token .setClose)) r' q' := by
  obtain ⟨frame, outer, sets, names⟩ := r
  obtain ⟨frame', outer', sets', names'⟩ := q
  obtain ⟨nesting, doubled⟩ := p
  have hflags : frame.flags = frame'.flags := h.flags
  have hsets : SetsWithin nesting sets sets' := h.sets
  cases hsets with
  | nil => cases hr
  | @cons negated nesting a b as bs hneg hset hsets =>
    obtain ⟨w, hw, rfl⟩ := Option.map_eq_some_iff.1 hr
    have hw' : a.close? frame'.flags = some w := hflags ▸ hw
    -- the direction turns around at this bracket if the bracket is negated
    have hturned : SetWithin (a.negated ^^ Place.grows nesting) a b := hneg ▸ hset
    obtain ⟨v, hv, hwv⟩ := hturned.close? hw'
    refine ⟨_, congrArg (Option.map _) hv, ?_⟩
    have hrest : ReadingWithin ⟨nesting, doubled⟩ ⟨frame, outer, as, names⟩
        ⟨frame', outer', bs, names'⟩ := ⟨h.frame, h.last, h.outer, hsets, h.names⟩
    exact hrest.pushSet hwv

/-- A token that can be read next can be read next in the wider reading too. -/
theorem step? (h : ReadingWithin p r q) (hallows : p.allows (.token token) = true)
    (hr : r.step? token = some r') :
    ∃ q', q.step? token = some q' ∧ ReadingWithin (p.after (.token token)) r' q' := by
  cases token with
  | item i => exact h.pushItem? hr
  | dot =>
    obtain ⟨set, hset, rfl⟩ := Option.map_eq_some_iff.1 hr
    rw [h.flags] at hset
    exact ⟨_, congrArg (Option.map _) hset, h.push_set set _⟩
  | caret | dollar =>
    cases hr
    exact ⟨_, rfl, h.edge _ _ _ _⟩
  | textStart | textEnd =>
    cases hr
    exact ⟨_, rfl, h.push (t := .assertion _) (Regex.Within.refl _) _⟩
  | word e =>
    cases hr
    rw [h.flags]
    exact ⟨_, rfl, h.push (t := .assertion _) (Regex.Within.refl _) _⟩
  | captureOpen name => exact h.captureOpen _ hr
  | groupOpen changes =>
    cases hr
    rw [h.flags]
    exact ⟨_, rfl, h.enter false _ _⟩
  | flags changes =>
    cases hr
    exact ⟨_, rfl, h.frame.setFlags changes, fun _ hr => (nomatch hr), h.outer, h.sets, h.names⟩
  | groupClose => exact h.groupClose _ hr
  | bar =>
    cases hr
    exact ⟨_, rfl, h.frame.bar, fun _ hr => (nomatch hr), h.outer, h.sets, h.names⟩
  | repetition least most isLazy =>
    -- a repetition is not allowed behind a doubled sign
    have hdoubled : p.doubled = false := Bool.not_eq_eq_eq_not.1 hallows
    exact h.repetition hdoubled _ hr
  | setOpen negated first => exact h.setOpen hr
  | setOperator o => cases hallows
  | setClose => exact h.setClose hr

end ReadingWithin

/-! ## Signs outside brackets -/

/-- Either of two characters, as brackets around them make it. -/
def eitherOf (c d : Char) : CharSet :=
  .union (.union .none (.char c)) (.char d)

/-- The tree of a bracket around two characters. -/
def eitherTree (f : Flags) (c d : Char) : Tree :=
  .set (f.foldCase (eitherOf c d)) f.alphabet 2

/-- The tree of blanks. -/
def blankTree (f : Flags) (least : Nat) : Tree :=
  .repeated (eitherTree f ' ' '\t') least none (false != f.swapGreed)

/-- The trees of a sign that stands for its characters. -/
def signTrees (f : Flags) (g : Sign) : List Tree :=
  g.chars.map fun c => .set (f.foldCase (.char c)) f.alphabet 0

/-- The trees between the blanks in the room of a sign. -/
def middleTrees (f : Flags) : Sign → List Tree
  | .semicolon => [eitherTree f ';' '\n']
  | g => signTrees f g

/-- The tree of the room of a sign. -/
def roomTree (f : Flags) : Sign → Tree
  | .space => .group false (blankTree f 1)
  | g => .group false (.concat (blankTree f 0 :: (middleTrees f g ++ [blankTree f 0])))

/-- Outside of brackets a sign reads as its characters one after the other. -/
theorem run?_tokens_outside (hr : r.sets = []) (g : Sign) :
    r.run? g.tokens = some ((signTrees r.flags g).foldl Reading.push r) := by
  obtain ⟨frame, outer, sets, names⟩ := r
  cases hr
  cases g <;> rfl

/-- Outside of brackets a sign with room reads as one item. -/
theorem run?_roomTokens_outside (hq : q.sets = []) (g : Sign) :
    q.run? (g.roomTokens false) = some (q.push (roomTree q.flags g)) := by
  obtain ⟨⟨flags, captures, alternatives, items, repeatable⟩, outer, sets, names⟩ := q
  obtain ⟨ignoreCase, multiLine, dotAll, swapGreed, unicode, anyNewline⟩ := flags
  cases hq
  cases unicode <;> cases g <;> rfl

/-- One of two characters is matched wherever the first one is. -/
theorem within_eitherOf (f : Flags) (c d : Char) :
    (f.foldCase (.char c)).Within (f.foldCase (eitherOf c d)) := by
  refine CharSet.Within.foldCase ?_ f
  exact (CharSet.within_union_right _ _).trans (CharSet.within_union_left _ _)

/-- What stands between the blanks is the sign, or for a semicolon one of two characters. -/
theorem within_middleTrees (f : Flags) (g : Sign) :
    Regex.Within (Tree.sequence (signTrees f g)) (Tree.sequence (middleTrees f g)) := by
  cases g with
  | semicolon => exact .chars (within_eitherOf f ';' '\n')
  | _ => exact .refl _

theorem matches_blankTree (f : Flags) (before after : Option Char) :
    Matches (blankTree f 0).regex before [] after :=
  matches_loop.2 .done

/-- Blanks on both sides take nothing away. -/
theorem within_between (f : Flags) (ts : List Tree) : Regex.Within (Tree.sequence ts)
    (Tree.sequence (blankTree f 0 :: (ts ++ [blankTree f 0]))) := by
  intro before x after hx
  have hback : Matches (Tree.sequence (ts ++ [blankTree f 0])) before x after := by
    rw [Tree.matches_sequence_append]
    exact ⟨x, [], (List.append_nil x).symm, by rwa [neighbour_nil], matches_blankTree f _ _⟩
  rw [Tree.matches_sequence_cons]
  exact .seq (s := []) (matches_blankTree f _ _) hback

/-- A sign with room matches the sign: a space is a blank itself, the others need no blanks. -/
theorem within_roomTree (f : Flags) (g : Sign) :
    Regex.Within (Tree.sequence (signTrees f g)) (roomTree f g).regex := by
  have hbetween := (within_middleTrees f g).trans (within_between f (middleTrees f g))
  cases g with
  | space =>
    intro before x after hx
    have hfirst := Regex.Within.chars (within_eitherOf f ' ' '\t') before x after hx
    exact matches_loop.2 (.ofOne (Nat.le_refl 1) hfirst)
  | _ => exact hbetween

/-- Two items on one side may stand against one on the other. -/
theorem FrameWithin.push_pair {t' : Tree} (h : FrameWithin f g)
    (hpair : Regex.Within (Tree.sequence [t', t]) u.regex) :
    FrameWithin ((f.push t').push t) (g.push u) :=
  ⟨h.flags, h.alternatives, .pair hpair h.items⟩

/-- Outside brackets the room of a sign is a group of its own. -/
theorem ReadingWithin.signOutside (h : ReadingWithin p r q) (hp : p.nesting = []) {g : Sign}
    (hr : r.run? g.tokens = some r') :
    ∃ q', q.run? (g.roomTokens false) = some q' ∧ ReadingWithin ⟨p.nesting, g.isDoubled⟩ r' q' := by
  have hsets := h.sets
  rw [hp] at hsets
  obtain ⟨hrsets, hqsets⟩ : r.sets = [] ∧ q.sets = [] := by
    generalize r.sets = as at hsets
    generalize q.sets = bs at hsets
    cases hsets
    exact ⟨rfl, rfl⟩
  rw [run?_tokens_outside hrsets] at hr
  cases hr
  refine ⟨_, run?_roomTokens_outside hqsets g, ?_⟩
  have hroom := within_roomTree r.flags g
  rw [← h.flags]
  cases g with
  -- two items stand for one group, so that they cannot be repeated alike
  | doubled a =>
    exact ⟨h.frame.push_pair hroom, fun hd => (nomatch hd), h.outer, h.sets, h.names⟩
  | _ => exact h.push hroom _

/-! ## Signs in brackets -/

/-- Two characters in a bracket of their own, as a member of the bracket around it. -/
def eitherMember (f : Flags) (c d : Char) : WrittenSet :=
  ⟨f.foldCase (eitherOf c d), 2⟩

/-- The members that stand for a sign in its room. -/
def middleMembers (f : Flags) : Sign → List WrittenSet
  | .semicolon => [eitherMember f ';' '\n']
  | g => plainMembers g.chars

/-- The members that the room of a sign is read as. -/
def roomMembers (f : Flags) : Sign → List WrittenSet
  | .space => plainMembers "(?:".toList ++ [eitherMember f ' ' '\t'] ++ plainMembers "+)".toList
  | g => plainMembers "(?:".toList ++ [eitherMember f ' ' '\t'] ++ plainMembers ['*'] ++
      middleMembers f g ++ [eitherMember f ' ' '\t'] ++ plainMembers "*)".toList

/-- Inside of brackets the characters of a sign become members. -/
theorem run?_tokens_inside {a : OpenSet} {as : List OpenSet} (hr : r.sets = a :: as) (g : Sign) :
    r.run? g.tokens = some { r with sets := addAll a (plainMembers g.chars) :: as } := by
  obtain ⟨⟨flags, captures, alternatives, items, repeatable⟩, outer, sets, names⟩ := r
  obtain ⟨ignoreCase, multiLine, dotAll, swapGreed, unicode, anyNewline⟩ := flags
  cases hr
  rcases g with _ | _ | _ | x | x
  case redirect | doubled => cases unicode <;> cases x <;> rfl
  all_goals cases unicode <;> rfl

/-- Inside of brackets a sign with room adds members, too. -/
theorem run?_roomTokens_inside {b : OpenSet} {bs : List OpenSet} (hq : q.sets = b :: bs)
    (g : Sign) : q.run? (g.roomTokens true) =
      some { q with sets := addAll b (roomMembers q.flags g) :: bs } := by
  obtain ⟨⟨flags, captures, alternatives, items, repeatable⟩, outer, sets, names⟩ := q
  obtain ⟨ignoreCase, multiLine, dotAll, swapGreed, unicode, anyNewline⟩ := flags
  cases hq
  rcases g with _ | _ | _ | x | x
  case redirect | doubled => cases unicode <;> cases x <;> rfl
  all_goals cases unicode <;> rfl

/-- The room of a sign has the sign among its members. -/
theorem exists_roomMembers {f : Flags} {g : Sign} {x : Char}
    (h : ∃ w ∈ plainMembers g.chars, w.set.contains x = true) :
    ∃ w ∈ roomMembers f g, w.set.contains x = true := by
  obtain ⟨w, hw, hx⟩ := h
  cases g with
  | space =>
    obtain rfl := List.mem_singleton.1 hw
    exact ⟨eitherMember f ' ' '\t', by simp [roomMembers],
      within_eitherOf f ' ' '\t' x (CharSet.within_foldCase f _ x hx)⟩
  | semicolon =>
    obtain rfl := List.mem_singleton.1 hw
    exact ⟨eitherMember f ';' '\n', by simp [roomMembers, middleMembers],
      within_eitherOf f ';' '\n' x (CharSet.within_foldCase f _ x hx)⟩
  | _ => exact ⟨w, by simp [roomMembers, middleMembers, hw], hx⟩

/-- The members for a sign with room include its characters. -/
theorem SetWithin.room {a b : OpenSet} (h : SetWithin true a b) (f : Flags) (g : Sign) :
    SetWithin true (addAll a (plainMembers g.chars)) (addAll b (roomMembers f g)) where
  negated := by rw [negated_addAll, negated_addAll, h.negated]
  joined := by rw [joined_addAll, h.joined]
  joined_wide := by rw [joined_addAll, h.joined_wide]
  members := by
    intro x hx
    rw [contains_addAll] at hx ⊢
    exact hx.imp (h.members x) exists_roomMembers

/-- In brackets the room of a sign is some members of the innermost one. -/
theorem ReadingWithin.signInside (h : ReadingWithin p r q) (hp : p.nesting ≠ []) {g : Sign}
    (hallows : Place.grows p.nesting = true) (hr : r.run? g.tokens = some r') :
    ∃ q', q.run? (g.roomTokens true) = some q' ∧ ReadingWithin p r' q' := by
  obtain ⟨frame, outer, sets, names⟩ := r
  obtain ⟨frame', outer', sets', names'⟩ := q
  obtain ⟨nesting, doubled⟩ := p
  have hsets : SetsWithin nesting sets sets' := h.sets
  cases hsets with
  | nil => exact (hp rfl).elim
  | cons hneg hset hsets =>
    rw [run?_tokens_inside rfl] at hr
    cases hr
    refine ⟨_, run?_roomTokens_inside rfl g, h.frame, h.last, h.outer, ?_, h.names⟩
    have hgrows : SetWithin true _ _ := hallows ▸ hset
    refine .cons ((negated_addAll _ _).trans hneg) ?_ hsets
    rw [hallows]
    exact hgrows.room _ g

/-! ## Whole expressions -/

/-- A sign that can be read next has room in the wider reading. -/
theorem ReadingWithin.sign (h : ReadingWithin p r q) {g : Sign}
    (hallows : p.allows (.sign g) = true) (hr : r.run? g.tokens = some r') :
    ∃ q', q.run? (g.roomTokens p.isInside) = some q' ∧ ReadingWithin (p.after (.sign g)) r' q' := by
  obtain ⟨nesting, doubled⟩ := p
  cases nesting with
  | nil => exact h.signOutside rfl hr
  | cons negated nesting => exact h.signInside (List.cons_ne_nil _ _) hallows hr

/-- Some parts that can be read can be read with room for their signs too. -/
theorem ReadingWithin.run? {parts : List Part} (h : ReadingWithin p r q)
    (hallows : p.allowsAll parts = true) (hr : r.run? (parts.flatMap Part.tokens) = some r') :
    ∃ p' q', q.run? (p.wideTokens parts) = some q' ∧ ReadingWithin p' r' q' := by
  -- on the parts: each one keeps both readings at the same place, one within the other
  induction parts generalizing p r q with
  | nil =>
    cases hr
    exact ⟨p, q, rfl, h⟩
  | cons part parts ih =>
    obtain ⟨hpart, hparts⟩ := Bool.and_eq_true_iff.1 hallows
    rw [List.flatMap_cons, Reading.run?_append] at hr
    obtain ⟨r₁, hfirst, hrest⟩ := Option.bind_eq_some_iff.1 hr
    cases part with
    | token token =>
      rw [Part.tokens, Reading.run?_cons] at hfirst
      obtain ⟨_, hstep, hdone⟩ := Option.bind_eq_some_iff.1 hfirst
      cases hdone
      obtain ⟨q₁, hq₁, hwithin⟩ := h.step? hpart hstep
      rw [Place.wideTokens, Reading.run?_cons, hq₁]
      exact ih hwithin hparts hrest
    | sign g =>
      obtain ⟨q₁, hq₁, hwithin⟩ := h.sign hpart hfirst
      rw [Place.wideTokens, Reading.run?_append, hq₁]
      exact ih hwithin hparts hrest

/-- An expression in which all signs can be given room is still one with that room, and matches
no less. -/
theorem readTree?_widen {o : Options} {x : Text} {tree : Tree} {flags : Flags}
    (h : readTree? flags x = some tree) (hroomy : isRoomy o x = true) :
    ∃ tree', readTree? flags (widen o x) = some tree' ∧ tree.Within tree' := by
  obtain ⟨parts, hparts, hallows⟩ := (Option.any_eq_true _ _).1 hroomy
  obtain ⟨htokens, hwide⟩ := readTokens?_widen hparts
  obtain ⟨ts, frame, names, hts, hr, -, rfl⟩ := readTree?_cases h
  cases htokens.symm.trans hts
  have hstart : ReadingWithin {} (Reading.start flags) (Reading.start flags) :=
    ⟨⟨rfl, .nil, .nil⟩, fun _ hr => (nomatch hr), .nil, .nil, rfl⟩
  obtain ⟨p', ⟨frame', outer', sets', names'⟩, hq, hwithin⟩ := hstart.run? hallows hr
  -- nothing is left open in the wider reading, as nothing is in the other one
  have hrest : outer' = [] ∧ sets' = [] := by
    have houter : List.Forall₂ FrameWithin [] outer' := hwithin.outer
    have hsets : SetsWithin p'.nesting [] sets' := hwithin.sets
    generalize p'.nesting = nesting at hsets
    cases houter
    cases hsets
    exact ⟨rfl, rfl⟩
  obtain ⟨rfl, rfl⟩ := hrest
  refine ⟨frame'.close, ?_, hwithin.frame.close⟩
  rw [readTree?_eq, hwide, Option.bind_some, hq]
  rfl

end AnswerKey.Pattern
