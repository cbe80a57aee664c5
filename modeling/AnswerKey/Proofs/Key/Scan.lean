import AnswerKey.Proofs.Key.WellFormed

/-!
# Looking for brackets byte by byte

A block's end, or the boundary of two patterns, is looked for from one pair of closing brackets to
the next: where nothing is read at a pair, the search goes on one byte behind its beginning.  Texts
are cut at byte positions on the way, which fails inside of a character.  It never does, because a
closing bracket takes one byte; and runs of brackets hide nothing, because the second bracket of a
pair is tried as the first of the next one.  So what is found is the leftmost occurrence
(`FindsLeftmost`), and the pieces of a body and the boundaries between them are all that there is of
it (`Division.IsOf`).
-/

namespace AnswerKey

open Text

/-! ## Cutting at a byte -/

namespace Text

/-- A text cut before byte `n`, if a character begins there or the text ends. -/
def cut? : Nat → Text → Option (Text × Text)
  | 0, t => some ([], t)
  | _ + 1, [] => none
  | n + 1, c :: t =>
    if c.utf8Size ≤ n + 1 then
      (cut? (n + 1 - c.utf8Size) t).map fun (front, tail) => (c :: front, tail)
    else none

theorem byteSize_eq_zero_iff {t : Text} : byteSize t = 0 ↔ t = [] := by
  constructor
  · intro h
    exact List.length_eq_zero_iff.1 (Nat.le_zero.1 (h ▸ length_le_byteSize t))
  · rintro rfl
    rfl

/-- The positions at which a text can be cut are the sizes of its prefixes. -/
theorem cut?_eq_some_iff {n : Nat} {t front tail : Text} :
    cut? n t = some (front, tail) ↔ t = front ++ tail ∧ byteSize front = n := by
  fun_induction cut? n t generalizing front with
  | case1 t =>
    rw [byteSize_eq_zero_iff, Option.some.injEq, Prod.mk.injEq]
    constructor
    · rintro ⟨rfl, rfl⟩
      exact ⟨rfl, rfl⟩
    · rintro ⟨rfl, rfl⟩
      exact ⟨rfl, rfl⟩
  | case2 n =>
    refine iff_of_false (fun h => nomatch h) ?_
    rintro ⟨h, hsize⟩
    rw [(List.nil_eq_append_iff.1 h).1] at hsize
    cases hsize
  | case3 n c t hfits ih =>
    -- the first character ends before the cut
    rw [Option.map_eq_some_iff]
    constructor
    · rintro ⟨⟨front', tail'⟩, hcut, he⟩
      cases he
      obtain ⟨rfl, hsize⟩ := ih.1 hcut
      refine ⟨rfl, ?_⟩
      rw [byteSize]
      omega
    · rintro ⟨h, hsize⟩
      rcases List.cons_eq_append_iff.1 h with ⟨rfl, -⟩ | ⟨front', rfl, rfl⟩
      · cases hsize
      · rw [byteSize] at hsize
        exact ⟨(front', tail), ih.2 ⟨rfl, by omega⟩, rfl⟩
  | case4 n c t hlong =>
    -- the cut would be inside of the first character
    refine iff_of_false (fun h => nomatch h) ?_
    rintro ⟨h, hsize⟩
    rcases List.cons_eq_append_iff.1 h with ⟨rfl, -⟩ | ⟨front', rfl, rfl⟩
    · cases hsize
    · rw [byteSize] at hsize
      omega

theorem cut?_append (front tail : Text) :
    cut? (byteSize front) (front ++ tail) = some (front, tail) :=
  cut?_eq_some_iff.2 ⟨rfl, rfl⟩

end Text

namespace Bracket

variable {α : Type} {d : Delimiter α} {a : α} {n : Nat} {s t u v before after rest : Text}

/-! ## The search -/

/-- An occurrence in a text: the bytes that it begins and ends before, and what it carries. -/
structure Span (α : Type) where
  start : Nat
  stop : Nat
  value : α
deriving DecidableEq, Repr

/-- A pair of closing brackets. -/
def pair : Delimiter Unit :=
  .ofText [']', ']'] (List.cons_ne_nil _ _)

theorem pair_read?_eq_some {x : Unit} : pair.read? t = some (x, rest) ↔ t = ']' :: ']' :: rest := by
  show (after? [']', ']'] t).map _ = _ ↔ _
  rw [Option.map_eq_some_iff]
  constructor
  · rintro ⟨rest', hafter, he⟩
    cases he
    exact after?_eq_some.1 hafter
  · intro h
    exact ⟨rest, after?_eq_some.2 h, rfl⟩

/-- Nothing is read where no pair of closing brackets stands. -/
theorem ClosesFirst.read?_of_pair (hd : ClosesFirst d) (h : pair.read? t = none) :
    d.read? t = none := by
  cases hread : d.read? t with
  | none => rfl
  | some found =>
    obtain ⟨tail, -, -, ht, -⟩ := hd hread
    rw [pair_read?_eq_some (x := ()).2 ht] at h
    cases h

/-- How many bytes stand before the first pair of closing brackets. -/
def pairAt? (t : Text) : Option Nat :=
  (pair.find? t).map fun found => byteSize found.1

/-- The first pair of closing brackets, with none that begins before it. -/
theorem pairAt?_eq_some (h : pairAt? t = some n) : ∃ before after,
    t = before ++ ']' :: ']' :: after ∧ byteSize before = n ∧
      ∀ u v, before = u ++ v → v ≠ [] → pair.read? (v ++ ']' :: ']' :: after) = none := by
  obtain ⟨⟨before, x, after⟩, hfind, rfl⟩ := Option.map_eq_some_iff.1 h
  obtain ⟨tail, rfl, hread, hearlier⟩ := Delimiter.find?_eq_some hfind
  rw [pair_read?_eq_some] at hread
  subst hread
  exact ⟨before, after, rfl, rfl, hearlier⟩

theorem lt_of_pairAt? (h : pairAt? t = some n) : n < byteSize t := by
  obtain ⟨before, after, rfl, rfl, -⟩ := pairAt?_eq_some h
  have hpos : 0 < byteSize (']' :: ']' :: after) :=
    Nat.lt_of_lt_of_le (by simp) (length_le_byteSize _)
  rw [byteSize_append]
  omega

/-- Without a pair of closing brackets nothing is found. -/
theorem ClosesFirst.find?_of_pairAt?_eq_none (hd : ClosesFirst d) (h : pairAt? t = none) :
    d.find? t = none := by
  refine Delimiter.find?_eq_none_iff.2 fun u v he hv => hd.read?_of_pair ?_
  exact Delimiter.find?_eq_none_iff.1 (Option.map_eq_none_iff.1 h) u v he hv

/-- Look for a delimiter from byte `pos` on, at one pair of closing brackets after the other.  Where
the text cannot be cut, the search fails with the position. -/
def scanFrom (d : Delimiter α) (t : Text) (pos : Nat) : Except Nat (Option (Span α)) :=
  match _hpos : cut? pos t with
  | none => .error pos
  | some (_, tail) =>
    match _hat : pairAt? tail with
    | none => .ok none
    | some offset =>
      match cut? (pos + offset) t with
      | none => .error (pos + offset)
      | some (_, input) =>
        match d.read? input with
        | some (a, rest) => .ok (some ⟨pos + offset, byteSize t - byteSize rest, a⟩)
        | none => scanFrom d t (pos + offset + 1)
termination_by byteSize t - pos
decreasing_by
  obtain ⟨rfl, rfl⟩ := cut?_eq_some_iff.1 _hpos
  have hlt := lt_of_pairAt? _hat
  rw [byteSize_append]
  omega

/-- Look for a delimiter in a whole text. -/
def scan (d : Delimiter α) (t : Text) : Except Nat (Option (Span α)) :=
  scanFrom d t 0

/-- The span of what is found in a text. -/
def spanOf (t : Text) (found : Text × α × Text) : Span α :=
  ⟨byteSize found.1, byteSize t - byteSize found.2.2, found.2.1⟩

/-! ## No cut fails -/

/-- Behind a part of the text the search looks for the next pair in what is left.  The cut that it
begins with is made where the part ends. -/
theorem scanFrom_byteSize (d : Delimiter α) (u v : Text) :
    scanFrom d (u ++ v) (byteSize u) =
      match pairAt? v with
      | none => .ok none
      | some offset =>
        match cut? (byteSize u + offset) (u ++ v) with
        | none => .error (byteSize u + offset)
        | some (_, input) =>
          match d.read? input with
          | some (a, rest) =>
            .ok (some ⟨byteSize u + offset, byteSize (u ++ v) - byteSize rest, a⟩)
          | none => scanFrom d (u ++ v) (byteSize u + offset + 1) := by
  rw [scanFrom]
  split
  · next hcut =>
    rw [cut?_append] at hcut
    cases hcut
  · next hcut =>
    rw [cut?_append] at hcut
    cases hcut
    split
    · next hat => rw [hat]
    · next hat => rw [hat]

/-- The search ends where no pair is left. -/
theorem scanFrom_of_no_pair (h : pairAt? v = none) :
    scanFrom d (u ++ v) (byteSize u) = .ok none := by
  rw [scanFrom_byteSize, h]

/-- At a pair the delimiter is read, or the search goes on behind its first bracket. -/
theorem scanFrom_of_pair {input : Text} (h : pairAt? (before ++ input) = some (byteSize before)) :
    scanFrom d (u ++ (before ++ input)) (byteSize u) =
      match d.read? input with
      | some (a, rest) => .ok (some (spanOf (u ++ (before ++ input)) (u ++ before, a, rest)))
      | none => scanFrom d (u ++ (before ++ input)) (byteSize (u ++ before) + 1) := by
  have hinput : cut? (byteSize u + byteSize before) (u ++ (before ++ input)) =
      some (u ++ before, input) := by
    rw [← byteSize_append, ← List.append_assoc]
    exact cut?_append _ _
  rw [scanFrom_byteSize, h]
  simp only [hinput, spanOf, byteSize_append]

/-- The search by bytes finds from any character on what the leftmost occurrence behind it is. -/
theorem ClosesFirst.scanFrom_append (hd : ClosesFirst d) (u v : Text) :
    scanFrom d (u ++ v) (byteSize u) =
      .ok ((d.find? v).map fun found => spanOf (u ++ v) (Delimiter.behind u found)) := by
  -- each round leaves a shorter text behind the position
  induction hn : v.length using Nat.strong_induction_on generalizing u v with
  | _ n ih =>
  cases hat : pairAt? v with
  | none =>
    rw [scanFrom_of_no_pair hat, hd.find?_of_pairAt?_eq_none hat]
    rfl
  | some offset =>
    obtain ⟨before, after, rfl, rfl, hearlier⟩ := pairAt?_eq_some hat
    have hfind : d.find? (before ++ ']' :: ']' :: after) =
        (d.find? (']' :: ']' :: after)).map (Delimiter.behind before) :=
      Delimiter.find?_append fun u v he hv => hd.read?_of_pair (hearlier u v he hv)
    rw [scanFrom_of_pair hat, hfind]
    cases hread : d.read? (']' :: ']' :: after) with
    | some found =>
      rw [Delimiter.find?_cons_of_some hread]
      simp [Delimiter.behind]
    | none =>
      -- the second bracket may begin the next pair
      have hnext : u ++ (before ++ ']' :: ']' :: after) =
          u ++ before ++ [']'] ++ ']' :: after := by simp
      have hsize : byteSize (u ++ before) + 1 = byteSize (u ++ before ++ [']']) := by
        rw [byteSize_append (u ++ before)]
        rfl
      have hshorter : (']' :: after).length < n := by
        rw [← hn]
        simp only [List.length_append, List.length_cons]
        omega
      rw [Delimiter.find?_cons_of_none hread, hnext, hsize, ih _ hshorter _ _ rfl, Option.map_map,
        Option.map_map]
      simp only [Function.comp_def, Delimiter.behind_behind, List.append_assoc]

/-- The search by bytes finds what the search by characters finds, and never fails. -/
theorem ClosesFirst.scan_eq (hd : ClosesFirst d) (t : Text) :
    scan d t = .ok ((d.find? t).map (spanOf t)) :=
  hd.scanFrom_append [] t

/-! ## What is found -/

/-- The end of a block as it is written: closing brackets, spaces and newlines, and its letters
between slashes. -/
def IsClosing (letters s : Text) : Prop :=
  ∃ gap : Text, (∀ c ∈ gap, isGap c = true) ∧ (∀ c ∈ letters, c.isAlpha = true) ∧
    s = ']' :: ']' :: (gap ++ '/' :: (letters ++ ['/']))

/-- The boundary of two patterns as it is written: closing brackets, spaces and newlines, and
opening brackets. -/
def IsBoundary (_ : Unit) (s : Text) : Prop :=
  ∃ gap : Text, (∀ c ∈ gap, isGap c = true) ∧ s = ']' :: ']' :: (gap ++ ['[', '['])

/-- A delimiter is read off the front of a text exactly where it is written there. -/
def ReadsAs (d : Delimiter α) (Written : α → Text → Prop) : Prop :=
  ∀ t a rest, d.read? t = some (a, rest) ↔ ∃ s, Written a s ∧ t = s ++ rest

/-- The end of a block is read just where it is written. -/
theorem readsAs_closing : ReadsAs closing IsClosing := by
  intro t letters rest
  constructor
  · intro h
    obtain ⟨gap, hgap, hletters, rfl⟩ := readClosing?_eq_some h
    exact ⟨_, ⟨gap, hgap, hletters, rfl⟩, by simp⟩
  · rintro ⟨s, ⟨gap, hgap, hletters, rfl⟩, rfl⟩
    have hread := readClosing?_append hgap hletters rest
    show readClosing? _ = _
    simpa using hread

theorem readsAs_boundary : ReadsAs boundary IsBoundary := by
  intro t _ rest
  constructor
  · intro h
    obtain ⟨gap, hgap, rfl⟩ := readBoundary?_eq_some h
    exact ⟨_, ⟨gap, hgap, rfl⟩, by simp⟩
  · rintro ⟨s, ⟨gap, hgap, rfl⟩, rfl⟩
    have hread := readBoundary?_append hgap rest
    show readBoundary? _ = _
    simpa using hread

/-- What is written stands in a text at a span. -/
def Span.StandsIn (Written : α → Text → Prop) (t : Text) (p : Span α) : Prop :=
  ∃ before s after, t = before ++ (s ++ after) ∧ Written p.value s ∧
    byteSize before = p.start ∧ byteSize (before ++ s) = p.stop

/-- Nothing of the kind begins in front of the span. -/
structure Span.IsLeftmost (Written : α → Text → Prop) (t : Text) (p : Span α) : Prop where
  standsIn : p.StandsIn Written t
  start_le : ∀ q : Span α, q.StandsIn Written t → p.start ≤ q.start

variable {Written : α → Text → Prop} {p q : Span α}

/-- Nothing is found in a text just if nothing of the kind is written in it. -/
theorem ReadsAs.find?_eq_none_iff (hd : ReadsAs d Written) :
    d.find? t = none ↔ ∀ p : Span α, ¬ p.StandsIn Written t := by
  rw [Delimiter.find?_eq_none_iff]
  constructor
  · rintro h p ⟨before, s, after, rfl, hs, -, -⟩
    have hread : d.read? (s ++ after) = some (p.value, after) := (hd _ _ _).2 ⟨s, hs, rfl⟩
    have hne : s ++ after ≠ [] := fun hnil => by
      have hlt := d.shrinks hread
      rw [hnil] at hlt
      cases hlt
    rw [h before _ rfl hne] at hread
    cases hread
  · intro h u v ht _
    cases hread : d.read? v with
    | none => rfl
    | some found =>
      obtain ⟨s, hs, rfl⟩ := (hd _ _ _).1 hread
      exact (h ⟨_, _, found.1⟩ ⟨u, s, found.2, ht, hs, rfl, rfl⟩).elim

/-- What is found is written there, at the span that is told of it. -/
theorem ReadsAs.standsIn_of_find? (hd : ReadsAs d Written)
    (h : d.find? t = some (before, a, rest)) :
    ∃ s, Written a s ∧ t = before ++ (s ++ rest) ∧
      spanOf t (before, a, rest) = ⟨byteSize before, byteSize (before ++ s), a⟩ := by
  obtain ⟨tail, rfl, hread, -⟩ := Delimiter.find?_eq_some h
  obtain ⟨s, hs, rfl⟩ := (hd _ _ _).1 hread
  refine ⟨s, hs, rfl, ?_⟩
  unfold spanOf
  simp only [byteSize_append, Span.mk.injEq, true_and, and_true]
  omega

/-- An occurrence that begins earlier would have been found. -/
theorem ReadsAs.isLeftmost_of_find? (hd : ReadsAs d Written)
    (h : d.find? t = some (before, a, rest)) :
    (spanOf t (before, a, rest)).IsLeftmost Written t := by
  obtain ⟨s, hs, ht, hspan⟩ := hd.standsIn_of_find? h
  rw [hspan]
  refine ⟨⟨before, s, rest, ht, hs, rfl, rfl⟩, ?_⟩
  rintro q ⟨before', s', after', ht', hs', hstart, -⟩
  rw [← hstart]
  refine Nat.le_of_not_lt fun hlt => ?_
  change byteSize before' < byteSize before at hlt
  obtain ⟨tail, htail, -, hearlier⟩ := Delimiter.find?_eq_some h
  have hboth : before' ++ (s' ++ after') = before ++ tail := ht' ▸ htail
  rcases List.append_eq_append_iff.1 hboth with ⟨w, rfl, hw⟩ | ⟨w, rfl, -⟩
  · -- a delimiter would be read inside of what stands before the first one
    have hne : w ≠ [] := by
      rintro rfl
      simp at hlt
    have hread : d.read? (w ++ tail) = some (q.value, after') :=
      (hd _ _ _).2 ⟨s', hs', hw ▸ rfl⟩
    rw [hearlier before' w rfl hne] at hread
    cases hread
  · rw [byteSize_append] at hlt
    omega

/-- Where the leftmost occurrence begins and what it carries leaves no choice of its end. -/
theorem ReadsAs.isLeftmost_iff (hd : ReadsAs d Written) :
    p.IsLeftmost Written t ↔ (d.find? t).map (spanOf t) = some p := by
  constructor
  · rintro ⟨⟨before, s, after, ht, hs, hstart, hstop⟩, hfirst⟩
    cases hfind : d.find? t with
    | none =>
      exact (hd.find?_eq_none_iff.1 hfind p ⟨before, s, after, ht, hs, hstart, hstop⟩).elim
    | some found =>
      obtain ⟨before', a, rest⟩ := found
      obtain ⟨s', hs', ht', hspan⟩ := hd.standsIn_of_find? hfind
      have hleftmost := hd.isLeftmost_of_find? hfind
      rw [hspan] at hleftmost
      -- both begin at the first byte, so they are cut off behind the same front
      have hsize : byteSize before' = byteSize before :=
        Nat.le_antisymm (hstart ▸ hleftmost.start_le p ⟨before, s, after, ht, hs, hstart, hstop⟩)
          (hstart ▸ hfirst _ hleftmost.standsIn)
      have hcut : some (before, s ++ after) = some (before', s' ++ rest) :=
        (cut?_eq_some_iff.2 ⟨ht, hsize.symm⟩).symm.trans (cut?_eq_some_iff.2 ⟨ht', rfl⟩)
      obtain ⟨rfl, htail⟩ := Prod.mk.inj (Option.some.inj hcut)
      have hread : some (p.value, after) = some (a, rest) :=
        ((hd _ _ _).2 ⟨s, hs, rfl⟩).symm.trans ((hd _ _ _).2 ⟨s', hs', htail⟩)
      obtain ⟨hvalue, rfl⟩ := Prod.mk.inj (Option.some.inj hread)
      obtain rfl := List.append_cancel_right htail
      rw [Option.map_some, hspan, hstart, hstop, ← hvalue]
  · intro h
    obtain ⟨⟨before, a, rest⟩, hfind, rfl⟩ := Option.map_eq_some_iff.1 h
    exact hd.isLeftmost_of_find? hfind

/-- The search by bytes cuts only between characters and finds the leftmost occurrence, if there is
one. -/
structure FindsLeftmost (d : Delimiter α) (Written : α → Text → Prop) (t : Text) : Prop where
  scan_eq : scan d t = .ok ((d.find? t).map (spanOf t))
  some_iff : ∀ p : Span α, scan d t = .ok (some p) ↔ p.IsLeftmost Written t
  none_iff : scan d t = .ok none ↔ ∀ p : Span α, ¬ p.StandsIn Written t

/-- The search finds the leftmost occurrence, or none where there is none. -/
theorem ClosesFirst.findsLeftmost (hd : ClosesFirst d) (hwritten : ReadsAs d Written) (t : Text) :
    FindsLeftmost d Written t where
  scan_eq := hd.scan_eq t
  some_iff p := by
    rw [hd.scan_eq, Except.ok.injEq]
    exact hwritten.isLeftmost_iff.symm
  none_iff := by
    rw [hd.scan_eq, Except.ok.injEq, Option.map_eq_none_iff]
    exact hwritten.find?_eq_none_iff

/-! ## Dividing a body -/

/-- A body that has been divided. -/
structure Division where
  pieces : List Text
  boundaries : List Text

/-- Pieces and boundaries in turn, a piece first. -/
def interleave : List Text → List Text → Text
  | [], boundaries => boundaries.flatten
  | piece :: pieces, [] => piece ++ pieces.flatten
  | piece :: pieces, boundary :: boundaries => piece ++ (boundary ++ interleave pieces boundaries)

namespace Division

/-- The body that has been divided. -/
def body (v : Division) : Text :=
  interleave v.pieces v.boundaries

/-- One more piece, and the boundary that it ends at, in front of a division. -/
def cons (piece boundary : Text) (v : Division) : Division :=
  ⟨piece :: v.pieces, boundary :: v.boundaries⟩

end Division

theorem length_of_scan_boundary {span : Span Unit} {front : Text}
    (h : scan boundary t = .ok (some span)) (hcut : cut? span.stop t = some (front, rest)) :
    rest.length < t.length := by
  rw [closesFirst_boundary.scan_eq, Except.ok.injEq, Option.map_eq_some_iff] at h
  obtain ⟨⟨before, a, rest'⟩, hfind, rfl⟩ := h
  obtain ⟨s, hs, ht, hspan⟩ := readsAs_boundary.standsIn_of_find? hfind
  rw [hspan, ht, ← List.append_assoc, cut?_append] at hcut
  cases hcut
  exact boundary.length_of_find? hfind

/-- Divide a body at its boundaries, each looked for behind the one before.  Where the text cannot
be cut, the division fails with the position. -/
def divide (t : Text) : Except Nat Division :=
  match _hscan : scan boundary t with
  | .error n => .error n
  | .ok none => .ok ⟨[t], []⟩
  | .ok (some span) =>
    match cut? span.start t with
    | none => .error span.start
    | some (piece, _) =>
      match _hcut : cut? span.stop t with
      | none => .error span.stop
      | some (front, rest) =>
        (divide rest).map (Division.cons piece (front.drop piece.length))
termination_by t.length
decreasing_by exact length_of_scan_boundary _hscan _hcut

theorem divide_of_find?_eq_none (h : boundary.find? t = none) : divide t = .ok ⟨[t], []⟩ := by
  have hscan : scan boundary t = .ok none := by
    rw [closesFirst_boundary.scan_eq, h]
    rfl
  rw [divide]
  split
  · next hfound =>
    rw [hscan] at hfound
    cases hfound
  · rfl
  · next hfound =>
    rw [hscan] at hfound
    cases hfound

/-- A piece and a boundary are taken off the front. -/
theorem divide_of_find?_eq_some {x : Unit} (h : boundary.find? t = some (before, x, rest)) :
    ∃ s, IsBoundary () s ∧ t = before ++ (s ++ rest) ∧
      divide t = (divide rest).map (Division.cons before s) := by
  obtain ⟨s, hs, ht, hspan⟩ := readsAs_boundary.standsIn_of_find? h
  have hscan : scan boundary t = .ok (some ⟨byteSize before, byteSize (before ++ s), x⟩) := by
    rw [closesFirst_boundary.scan_eq, h, Option.map_some, hspan]
  -- both cuts are made where a part of the text ends
  have hstart : cut? (byteSize before) t = some (before, s ++ rest) :=
    cut?_eq_some_iff.2 ⟨ht, rfl⟩
  have hstop : cut? (byteSize (before ++ s)) t = some (before ++ s, rest) :=
    cut?_eq_some_iff.2 ⟨by rw [ht, List.append_assoc], rfl⟩
  refine ⟨s, hs, ht, ?_⟩
  rw [divide]
  split
  · next hfound =>
    rw [hscan] at hfound
    cases hfound
  · next hfound =>
    rw [hscan] at hfound
    cases hfound
  · next hfound =>
    rw [hscan] at hfound
    cases hfound
    rw [hstart]
    simp only
    split
    · next hcut =>
      rw [hstop] at hcut
      cases hcut
    · next hcut =>
      rw [hstop] at hcut
      cases hcut
      rw [List.drop_left]

/-- The pieces of a body and the boundaries between them: one piece more than boundaries, no
boundary in a piece, and nothing of the body lost. -/
structure Division.IsOf (v : Division) (t : Text) : Prop where
  body_eq : v.body = t
  length_pieces : v.pieces.length = v.boundaries.length + 1
  isBoundary : ∀ s ∈ v.boundaries, IsBoundary () s
  no_boundary : ∀ piece ∈ v.pieces, ¬ HasBoundary piece

theorem Division.isOf_single (h : boundary.find? t = none) : Division.IsOf ⟨[t], []⟩ t where
  body_eq := List.append_nil t
  length_pieces := rfl
  isBoundary := List.forall_mem_nil _
  no_boundary := by
    intro piece hpiece
    rw [List.mem_singleton] at hpiece
    exact find?_boundary_eq_none_iff.1 (hpiece ▸ h)

/-- A piece and the boundary behind it go in front of a division of the rest. -/
theorem Division.IsOf.cons {v : Division} (hv : v.IsOf rest) (hs : IsBoundary () s)
    (hbefore : ¬ HasBoundary before) : (Division.cons before s v).IsOf (before ++ (s ++ rest)) where
  body_eq := congrArg (fun rest => before ++ (s ++ rest)) hv.body_eq
  length_pieces := congrArg (· + 1) hv.length_pieces
  isBoundary := List.forall_mem_cons.2 ⟨hs, hv.isBoundary⟩
  no_boundary := List.forall_mem_cons.2 ⟨hbefore, hv.no_boundary⟩

/-- A body is divided into the pieces that its patterns are read from, without a cut that fails. -/
theorem exists_divide_eq (t : Text) :
    ∃ v, divide t = .ok v ∧ v.pieces = boundary.split t ∧ v.IsOf t := by
  induction hn : t.length using Nat.strong_induction_on generalizing t with
  | _ n ih =>
  cases hfind : boundary.find? t with
  | none =>
    exact ⟨⟨[t], []⟩, divide_of_find?_eq_none hfind, (Delimiter.split_of_find?_eq_none hfind).symm,
      Division.isOf_single hfind⟩
  | some found =>
    obtain ⟨before, x, rest⟩ := found
    obtain ⟨s, hs, rfl, hdivide⟩ := divide_of_find?_eq_some hfind
    obtain ⟨v, hrest, hpieces, hv⟩ := ih _ (hn ▸ boundary.length_of_find? hfind) rest rfl
    refine ⟨Division.cons before s v, ?_, ?_, hv.cons hs ?_⟩
    · rw [hdivide, hrest]
      rfl
    · rw [Delimiter.split_of_find?_eq_some hfind, ← hpieces]
      rfl
    · exact find?_boundary_eq_none_iff.1 (isLocal_boundary.find?_before hfind)

/-- There is no other way to divide a body. -/
theorem Division.IsOf.divide_eq {v : Division} (hv : v.IsOf t) : divide t = .ok v := by
  obtain ⟨pieces, boundaries⟩ := v
  induction pieces generalizing t boundaries with
  | nil => cases hv.length_pieces
  | cons piece pieces ih =>
    have hpiece := hv.no_boundary piece List.mem_cons_self
    cases boundaries with
    | nil =>
      obtain rfl : pieces = [] := List.length_eq_zero_iff.1 (Nat.succ.inj hv.length_pieces)
      have ht : piece = t := (List.append_nil piece).symm.trans hv.body_eq
      subst ht
      exact divide_of_find?_eq_none (find?_boundary_eq_none_iff.2 hpiece)
    | cons s boundaries =>
      have hrest : Division.IsOf ⟨pieces, boundaries⟩ (interleave pieces boundaries) := {
        body_eq := rfl
        length_pieces := Nat.succ.inj hv.length_pieces
        isBoundary := fun s hs => hv.isBoundary s (List.mem_cons_of_mem _ hs)
        no_boundary := fun p hp => hv.no_boundary p (List.mem_cons_of_mem _ hp) }
      have ht : piece ++ (s ++ interleave pieces boundaries) = t := hv.body_eq
      obtain ⟨gap, hgap, hwritten⟩ := hv.isBoundary s List.mem_cons_self
      -- no boundary straddles the end of a piece that has none
      have hfind : boundary.find? t = some (piece, (), interleave pieces boundaries) := by
        have hfirst : boundary.find?
            (piece ++ ']' :: ']' :: (gap ++ '[' :: '[' :: interleave pieces boundaries)) =
              some (piece, (), interleave pieces boundaries) :=
          find?_boundary_append hpiece hgap
        rw [← ht, hwritten]
        simpa using hfirst
      obtain ⟨s', -, ht', hdivide⟩ := divide_of_find?_eq_some hfind
      have hs : s = s' :=
        List.append_cancel_right (List.append_cancel_left (ht.trans ht'))
      rw [hdivide, ih _ hrest, hs]
      rfl

/-- Either search by bytes finds the leftmost occurrence of what is written, and a body is the
pieces and the boundaries that it is divided into. -/
theorem brackets_leftmost_and_lossless :
    ReadsAs closing IsClosing ∧ (∀ t, FindsLeftmost closing IsClosing t) ∧
      ReadsAs boundary IsBoundary ∧ (∀ t, FindsLeftmost boundary IsBoundary t) ∧
      ∀ t, (∃ v, divide t = .ok v ∧ v.pieces = boundary.split t) ∧
        ∀ v, divide t = .ok v ↔ v.IsOf t := by
  refine ⟨readsAs_closing, closesFirst_closing.findsLeftmost readsAs_closing, readsAs_boundary,
    closesFirst_boundary.findsLeftmost readsAs_boundary, fun t => ?_⟩
  obtain ⟨v, hdivide, hpieces, hv⟩ := exists_divide_eq t
  refine ⟨⟨v, hdivide, hpieces⟩, fun w => ⟨fun h => ?_, fun hw => hw.divide_eq⟩⟩
  obtain rfl : v = w := Except.ok.inj (hdivide.symm.trans h)
  exact hv

/-- The second of three brackets begins the boundary, behind a character of two bytes. -/
example : scan boundary "é]]] [[b".toList = .ok (some ⟨3, 8, ()⟩) := by
  rw [closesFirst_boundary.scan_eq]
  rfl

end Bracket
end AnswerKey
