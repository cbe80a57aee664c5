import AnswerKey.Proofs.Pattern.Sign
import AnswerKey.Proofs.Regex.Replaced

/-!
# Signs among tokens

Making room does not look at what an expression means.  A sign can be given room if it stands where
the expression has the sign itself: between tokens, read as the characters that it is written with,
and in brackets only where more characters make the expression match more.  Then the wider
expression has the same tokens and, for each sign, those of its room.
-/

namespace AnswerKey

open Regex

namespace Sign

/-- The characters that a sign stands for. -/
def chars : Sign → List Char
  | space => [' ']
  | semicolon => [';']
  | pipe => ['|']
  | redirect a => [a.char]
  | doubled a => [a.char, a.char]

def isDoubled : Sign → Bool
  | doubled _ => true
  | _ => false

/-- The tokens of a sign that stands for its characters. -/
def tokens (g : Sign) : List Token :=
  g.chars.map fun c => .item (.literal c)

/-- The tokens of blanks, at least one of them or any number.  In brackets they are members. -/
def blankTokens (isInside : Bool) (least : Nat) : List Token :=
  [.setOpen false [], .item (.literal ' '), .item (.literal '\t'), .setClose,
    if isInside then .item (.literal (if least = 0 then '*' else '+'))
    else .repetition least none false]

/-- The tokens of the opening of a group. -/
def openTokens (isInside : Bool) : List Token :=
  if isInside then [.item (.literal '('), .item (.literal '?'), .item (.literal ':')]
  else [.groupOpen []]

/-- The token of the closing of a group. -/
def closeToken (isInside : Bool) : Token :=
  if isInside then .item (.literal ')') else .groupClose

/-- The tokens between the blanks in the room of a sign. -/
def middleTokens : Sign → List Token
  | semicolon => [.setOpen false [], .item (.literal ';'), .item (.literal '\n'), .setClose]
  | g => g.tokens

/-- The tokens of the room of a sign. -/
def roomTokens (isInside : Bool) : Sign → List Token
  | space => openTokens isInside ++ blankTokens isInside 1 ++ [closeToken isInside]
  | g =>
    openTokens isInside ++ blankTokens isInside 0 ++ g.middleTokens ++ blankTokens isInside 0 ++
      [closeToken isInside]

end Sign

namespace Pattern

/-- A part of an expression. -/
inductive Part where
  | token (t : Token)
  /-- A sign that can be given room. -/
  | sign (g : Sign)
deriving DecidableEq, Repr

/-- The tokens of a part. -/
def Part.tokens : Part → List Token
  | token t => [t]
  | sign g => g.tokens

/-! ## Places for signs -/

/-- What decides whether a sign can be given room. -/
structure Place where
  /-- Which of the open brackets are negated, innermost first. -/
  nesting : List Bool := []
  /-- Whether the last item is a doubled sign. -/
  doubled : Bool := false
deriving DecidableEq, Repr

namespace Place

/-- Whether a token stands in brackets. -/
def isInside (p : Place) : Bool :=
  !p.nesting.isEmpty

/-- Whether more members of the innermost bracket make for more members of the outermost one. -/
def grows (nesting : List Bool) : Bool :=
  nesting.foldr xor true

/-- The brackets that are open behind a token. -/
def enclose (nesting : List Bool) : Token → List Bool
  | .setOpen negated _ => negated :: nesting
  | .setClose => nesting.tail
  | _ => nesting

/-- The place behind a part. -/
def after (p : Place) : Part → Place
  | .token t =>
    let nesting := enclose p.nesting t
    ⟨nesting, p.doubled && !nesting.isEmpty⟩
  | .sign g => ⟨p.nesting, if p.isInside then p.doubled else g.isDoubled⟩

/-- Whether a part can stand at a place where signs are given room.  A doubled sign would be
repeated as a whole, which is not what is asked for, and sets are not combined with operators. -/
def allows (p : Place) : Part → Bool
  | .sign _ => grows p.nesting
  | .token (.repetition ..) => !p.doubled
  | .token (.setOperator _) => false
  | .token _ => true

/-- Whether all parts can stand where they do. -/
def allowsAll (p : Place) : List Part → Bool
  | [] => true
  | part :: parts => p.allows part && (p.after part).allowsAll parts

end Place

/-! ## Reading parts -/

/-- Whether the text up to `rest` is read as some characters, one by one. -/
def readsChars (s : Surroundings) (rest : Text) : List Char → Text → Bool
  | [], t => t = rest
  | c :: cs, t =>
    match s.readToken? t with
    | some (token, t') => token = .item (.literal c) && readsChars s rest cs t'
    | none => false

/-- Whether no sign begins before `rest`. -/
def isSignFree (o : Options) (rest : Text) : Text → Bool
  | [] => true
  | c :: t =>
    (c :: t).length ≤ rest.length || (sign? o (c :: t)).isNone && isSignFree o rest t

/-- The parts of a text in its surroundings, at most `budget` of them, if every sign is one of
them and no part is spread out. -/
def readPartsWithin? (o : Options) : (budget : Nat) → Surroundings → Text → Option (List Part)
  | _, s, [] => if s.depth = 0 then some [] else none
  | 0, _, _ :: _ => none
  | budget + 1, s, c :: t =>
    if s.verbose then none
    else
      match sign? o (c :: t) with
      | some (g, rest) =>
        if readsChars s rest g.chars (c :: t) then
          (readPartsWithin? o budget s rest).map (.sign g :: ·)
        else none
      | none =>
        match s.readToken? (c :: t) with
        | none => none
        | some (token, rest) =>
          if isSignFree o rest (c :: t) then
            (readPartsWithin? o budget (s.after token) rest).map (.token token :: ·)
          else none

/-- Whether all signs in an expression can be given room. -/
def isRoomy (o : Options) (t : Text) : Bool :=
  (readPartsWithin? o t.length {} t).any fun parts => ({} : Place).allowsAll parts

/-! ## Reading tokens one by one -/

variable {o : Options} {s s' : Surroundings} {t t' u rest rest' : Text} {ts us : List Token}
  {token : Token} {g : Sign} {p : Place}

/-- Some tokens are read off the front of a text, and what follows them is left. -/
inductive Reads : Surroundings → Text → List Token → Surroundings → Text → Prop where
  | done {s : Surroundings} {t : Text} : Reads s t [] s t
  | token {s s' : Surroundings} {t rest rest' : Text} {token : Token} {ts : List Token} :
      s.verbose = false → s.readToken? t = some (token, rest) →
        Reads (s.after token) rest ts s' rest' → Reads s t (token :: ts) s' rest'

theorem Reads.append {s₂ : Surroundings} (h : Reads s t ts s₂ rest)
    (h' : Reads s₂ rest us s' rest') : Reads s t (ts ++ us) s' rest' := by
  induction h with
  | done => exact h'
  | token hs hread _ ih => exact .token hs hread (ih h')

/-- A text that is read to its end is read within its length. -/
theorem Reads.readTokensWithin? {budget : Nat} (h : Reads s t ts s' []) (hs' : s'.depth = 0)
    (hbudget : t.length ≤ budget) : readTokensWithin? budget s t = some ts := by
  generalize he : ([] : Text) = rest at h
  induction h generalizing budget with
  | done =>
    subst he
    rw [readTokensWithin?_of_blank rfl, if_pos hs']
  | @token s _ t rest _ token ts hs hread _ ih =>
    have hlength := length_of_readToken? hs hread
    cases t with
    | nil => exact absurd hlength (Nat.not_lt_zero _)
    | cons c t =>
      rw [List.length_cons] at hbudget hlength
      obtain ⟨budget, rfl⟩ := Nat.exists_eq_add_of_le' (show 1 ≤ budget by omega)
      rw [readTokensWithin?_plain hs hread, ih hs' (by omega) he]
      rfl

/-! ## The tokens of room -/

/-- Outside of brackets the room of a sign reads as a group of its own. -/
theorem reads_room_outside (g : Sign) (outer : List Bool) (t : Text) :
    Reads ⟨0, false, outer⟩ (g.room ++ t) (g.roomTokens false) ⟨0, false, outer⟩ t := by
  rcases g with _ | _ | _ | a | a
  case redirect | doubled =>
    cases a
    all_goals
      repeat refine .token rfl rfl ?_
      exact .done
  all_goals
    repeat refine .token rfl rfl ?_
    exact .done

/-- A dash at the start of a text makes no range. -/
def IsDashAlone (t : Text) : Prop :=
  ∀ r, t = '-' :: r → nextSign false r = some ']' ∨ nextSign false r = some '-'

/-- Where no dash goes on a range, none does once signs have been given room. -/
theorem IsDashAlone.replaced (h : IsDashAlone t) (hr : Replaced t t') : IsDashAlone t' := by
  intro r' ht'
  subst ht'
  obtain ⟨r, rfl, hrest⟩ := hr.of_cons (by decide)
  exact hrest.nextSign_iff.1 (h r rfl)

theorem readInside?_paren (h : IsDashAlone t) :
    readInside? false (')' :: t) = some (.item (.literal ')'), t) := by
  have hrange : readRange? false (')' :: t) = some (.literal ')', t) := by
    by_cases hdash : ∃ r, t = '-' :: r
    · obtain ⟨r, rfl⟩ := hdash
      exact readRange?_alone rfl (h r rfl)
    · exact readRange?_plain rfl fun r hr => hdash ⟨r, hr⟩
  show (readRange? false (')' :: t)).map _ = _
  rw [hrange]
  rfl

/-- A character is read by itself only where no range begins with it. -/
theorem isDashAlone_of_readRange? {c : Char}
    (h : readRange? false t = some (.literal c, rest)) : IsDashAlone rest := by
  cases hfirst : readMember? false t with
  | none =>
    unfold readRange? at h
    rw [hfirst] at h
    cases h
  | some found =>
    obtain ⟨first, rest'⟩ := found
    by_cases hdash : ∃ r, rest' = '-' :: r
    · obtain ⟨r, rfl⟩ := hdash
      by_cases hnext : nextSign false r = some ']' ∨ nextSign false r = some '-'
      · rw [readRange?_alone hfirst hnext] at h
        cases h
        intro r' hr'
        cases hr'
        exact hnext
      -- a range is read, which is no single character
      · rw [readRange?_dash hfirst hnext] at h
        unfold readRangeEnd? at h
        split at h
        · cases h
        · split at h
          · split at h <;> cases h
          · cases h
    · rw [readRange?_plain hfirst fun r hr => hdash ⟨r, hr⟩] at h
      cases h
      exact fun r hr => (hdash ⟨r, hr⟩).elim

/-- A replaceable character begins nothing else in brackets. -/
theorem not_beginsInside {c : Char} (hc : c ∈ replaceable) (t : Text) :
    ¬ BeginsInside (c :: t) := by
  intro h
  obtain ⟨start, hstart, u, he⟩ := h
  simp only [List.mem_cons, List.not_mem_nil, or_false] at hstart
  rcases hstart with rfl | rfl | rfl | rfl | rfl
  all_goals
    obtain rfl := (List.cons.inj he).1
    exact absurd hc (by decide)

/-- Behind a sign that is read as its characters no range goes on. -/
theorem isDashAlone_of_readToken? {c d : Char} (hs : s.verbose = false) (hdepth : s.depth ≠ 0)
    (hd : d ∈ replaceable) (h : s.readToken? (d :: t) = some (.item (.literal c), rest)) :
    IsDashAlone rest := by
  rw [Surroundings.readToken?, if_neg hdepth, hs, readInside?_item (not_beginsInside hd t)] at h
  obtain ⟨⟨i, r⟩, hread, he⟩ := Option.map_eq_some_iff.1 h
  cases he
  exact isDashAlone_of_readRange? hread

/-- In brackets the room of a sign reads as members, the blanks as brackets of their own. -/
theorem reads_room_inside (g : Sign) (n : Nat) (outer : List Bool) (h : IsDashAlone t) :
    Reads ⟨n + 1, false, outer⟩ (g.room ++ t) (g.roomTokens true) ⟨n + 1, false, outer⟩ t := by
  have hclose : Reads ⟨n + 1, false, outer⟩ (')' :: t) [Sign.closeToken true]
      ⟨n + 1, false, outer⟩ t := .token rfl (readInside?_paren h) .done
  rcases g with _ | _ | _ | a | a
  case redirect | doubled =>
    cases a
    all_goals
      repeat refine .token rfl rfl ?_
      exact hclose
  all_goals
    repeat refine .token rfl rfl ?_
    exact hclose

/-! ## The tokens of the parts -/

/-- The tokens of the parts behind a place, those that are signs with room. -/
def Place.wideTokens (p : Place) : List Part → List Token
  | [] => []
  | .token t :: parts => t :: (p.after (.token t)).wideTokens parts
  | .sign g :: parts => g.roomTokens p.isInside ++ (p.after (.sign g)).wideTokens parts

/-- Making room only replaces characters that can be replaced. -/
theorem replaced_widen (o : Options) (t : Text) : Replaced t (widen o t) := by
  fun_induction widen o t with
  | case1 t g rest h ih =>
    obtain ⟨-, rfl, -⟩ := sign?_eq_some h
    rcases g with _ | _ | _ | a | a
    case redirect | doubled => cases a <;> exact .sign (by decide)
    all_goals exact .sign (by decide)
  | case2 h => exact .nil
  | case3 c t h ih => exact .cons ih

/-- A text without signs stays as it is. -/
theorem widen_of_isSignFree (h : isSignFree o rest (u ++ rest) = true) :
    widen o (u ++ rest) = u ++ widen o rest := by
  induction u with
  | nil => rfl
  | cons c u ih =>
    rw [List.cons_append, isSignFree, Bool.or_eq_true] at h
    rcases h with h | h
    · simp only [List.length_cons, List.length_append, decide_eq_true_eq] at h
      omega
    · obtain ⟨hnone, hfree⟩ := Bool.and_eq_true_iff.1 h
      rw [List.cons_append, widen_of_none (Option.isNone_iff_eq_none.1 hnone), ih hfree]
      rfl

theorem reads_of_readsChars {cs : List Char} (hs : s.verbose = false)
    (h : readsChars s rest cs t = true) :
    Reads s t (cs.map fun c => .item (.literal c)) s rest := by
  induction cs generalizing t with
  | nil =>
    obtain rfl : t = rest := of_decide_eq_true h
    exact .done
  | cons c cs ih =>
    rw [readsChars] at h
    split at h
    · next token t' hread =>
      obtain ⟨htoken, hcs⟩ := Bool.and_eq_true_iff.1 h
      obtain rfl := of_decide_eq_true htoken
      exact .token hs hread (ih hcs)
    · cases h

/-- Where a sign is read as its characters, no range goes on behind it. -/
theorem isDashAlone_of_readsChars (hs : s.verbose = false) (hdepth : s.depth ≠ 0)
    (h : readsChars s rest g.chars (g.text ++ rest) = true) : IsDashAlone rest := by
  have hone : ∀ {c d : Char} {t : Text}, d ∈ replaceable →
      readsChars s rest [c] (d :: t) = true → IsDashAlone rest := by
    intro c d t hd h
    have hreads := reads_of_readsChars hs h
    cases hreads with
    | token _ hread hdone =>
      cases hdone
      exact isDashAlone_of_readToken? hs hdepth hd hread
  rcases g with _ | _ | _ | a | a
  · exact hone (by decide) h
  · exact hone (by decide) h
  · exact hone (by decide) h
  · exact hone (by cases a <;> decide) h
  -- the second one of two signs is all that is left behind the first one
  · cases reads_of_readsChars hs h with
    | @token _ _ _ middle _ _ _ _ hread hlast =>
      have hmiddle : middle = a.char :: rest := by
        obtain ⟨u, hu, -⟩ := readToken?_keeps hs hread
        have hfirst := length_of_readToken? hs hread
        have hsecond : rest.length < middle.length := by
          cases hlast with
          | token _ hread' hdone =>
            cases hdone
            exact length_of_readToken? hs hread'
        have hlength := congrArg List.length hu
        simp only [Sign.text, List.cons_append, List.nil_append, List.length_cons,
          List.length_append] at hu hfirst hlength
        rcases u with _ | ⟨c, _ | ⟨d, u⟩⟩
        · rw [List.length_nil] at hlength
          omega
        · exact (List.cons.inj hu).2.symm
        · simp only [List.length_cons] at hlength
          omega
      subst hmiddle
      cases hlast with
      | token _ hread' hdone =>
        cases hdone
        exact isDashAlone_of_readToken? hs hdepth (by cases a <;> decide) hread'

/-- The room of a sign is read as such where the sign itself is read as its characters. -/
theorem reads_room (hs : s.verbose = false)
    (h : readsChars s rest g.chars (g.text ++ rest) = true) (hr : Replaced rest rest') :
    Reads s (g.room ++ rest') (g.roomTokens (decide (s.depth ≠ 0))) s rest' := by
  obtain ⟨depth, verbose, outer⟩ := s
  cases hs
  cases depth with
  | zero => exact reads_room_outside g outer rest'
  | succ n =>
    exact reads_room_inside g n outer
      ((isDashAlone_of_readsChars rfl (Nat.succ_ne_zero n) h).replaced hr)

theorem depth_after (h : s.depth = p.nesting.length) (token : Token) :
    (s.after token).depth = (p.after (.token token)).nesting.length := by
  cases token with
  | setOpen => exact congrArg (· + 1) h
  | setClose =>
    show s.depth - 1 = p.nesting.tail.length
    rw [h, List.length_tail]
  | _ => exact h

theorem isInside_eq (h : s.depth = p.nesting.length) : p.isInside = decide (s.depth ≠ 0) := by
  rw [h, Place.isInside]
  cases p.nesting <;> rfl

/-- A text that is read in parts is read as their tokens, and with room for its signs as the tokens
of these and of that room. -/
theorem reads_of_readPartsWithin? {budget : Nat} {parts : List Part}
    (h : readPartsWithin? o budget s t = some parts) (hdepth : s.depth = p.nesting.length) :
    (∃ s', Reads s t (parts.flatMap Part.tokens) s' [] ∧ s'.depth = 0) ∧
      ∃ s', Reads s (widen o t) (p.wideTokens parts) s' [] ∧ s'.depth = 0 := by
  fun_induction readPartsWithin? o budget s t generalizing p parts with
  | case1 budget s hclosed =>
    cases h
    rw [widen_nil]
    exact ⟨⟨s, .done, hclosed⟩, s, .done, hclosed⟩
  | case5 budget s c t hverbose g rest hsign hchars ih =>
    -- a sign, read as its characters or with room
    obtain ⟨parts, hparts, rfl⟩ := Option.map_eq_some_iff.1 h
    have hs : s.verbose = false := Bool.eq_false_iff.2 hverbose
    have hplace : s.depth = (p.after (.sign g)).nesting.length := hdepth
    obtain ⟨⟨s₁, hread, hend⟩, s₂, hwide, hend'⟩ := ih hparts hplace
    refine ⟨⟨s₁, (reads_of_readsChars hs hchars).append hread, hend⟩, s₂, ?_, hend'⟩
    obtain ⟨-, htext, -⟩ := sign?_eq_some hsign
    rw [htext] at hchars
    rw [widen_of_sign hsign, Place.wideTokens, isInside_eq hdepth]
    exact (reads_room hs hchars (replaced_widen o rest)).append hwide
  | case8 budget s c t hverbose hsign token rest hread hfree ih =>
    -- a token, in which no sign begins
    obtain ⟨parts, hparts, rfl⟩ := Option.map_eq_some_iff.1 h
    have hs : s.verbose = false := Bool.eq_false_iff.2 hverbose
    obtain ⟨⟨s₁, hreads, hend⟩, s₂, hwide, hend'⟩ := ih hparts (depth_after hdepth token)
    refine ⟨⟨s₁, .token hs hread hreads, hend⟩, s₂, ?_, hend'⟩
    obtain ⟨u, hu, hkeeps⟩ := readToken?_keeps hs hread
    rw [hu] at hfree
    rw [hu, widen_of_isSignFree hfree]
    exact .token hs (hkeeps _ (replaced_widen o rest)) hwide
  | _ => cases h

/-- The tokens of an expression with room for its signs. -/
theorem readTokens?_widen {parts : List Part}
    (h : readPartsWithin? o t.length {} t = some parts) :
    readTokens? t = some (parts.flatMap Part.tokens) ∧
      readTokens? (widen o t) = some (({} : Place).wideTokens parts) := by
  obtain ⟨⟨s₁, hread, hend⟩, s₂, hwide, hend'⟩ :=
    reads_of_readPartsWithin? h (p := {}) rfl
  exact ⟨hread.readTokensWithin? hend le_rfl, hwide.readTokensWithin? hend' le_rfl⟩

example : isRoomy { widePipes := true, wideRedirects := true }
    "(?i)^(?:ls *[ ;]\\|(?:sort|uniq)>>[^a[^ ]])$".toList = true := by decide +kernel

end Pattern
end AnswerKey
