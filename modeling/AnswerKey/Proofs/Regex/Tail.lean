import AnswerKey.Proofs.Text.Run
import AnswerKey.Regex.Token

/-!
# Tokens of a text that goes on

What is read off the front of a text stays the same when a tail is put behind the text: a closing
parenthesis and more of the same line.  Most readings leave the whole tail alone.  Those that end by
passing over blanks and comments may be inside a comment at the end of the text, and then the
comment takes the tail too; `Lasts` has both cases.
-/

namespace AnswerKey.Regex

variable {verbose inComment : Bool} {p : Char → Bool} {u w run rest : Text} {c : Char}

/-- A closing parenthesis and more of the same line. -/
def IsTail (w : Text) : Prop :=
  ∃ v, w = ')' :: v ∧ '\n' ∉ v

theorem IsTail.no_newline (hw : IsTail w) : '\n' ∉ w := by
  obtain ⟨v, rfl, hv⟩ := hw
  rw [List.mem_cons, not_or]
  exact ⟨by decide, hv⟩

/-- What is read off the front of `u` is read off `u` with a tail too; what follows it goes on with
the tail, or else a comment that is open at the end of `u` takes the tail. -/
def Lasts {α : Type} (f : Text → Option (α × Text)) (u : Text) (x : α) (rest : Text) : Prop :=
  (∀ w, IsTail w → f (u ++ w) = some (x, rest ++ w)) ∨
    rest = [] ∧ ∀ w, IsTail w → f (u ++ w) = some (x, [])

/-- What is read off before every tail lasts. -/
theorem Lasts.of_append {α : Type} {f : Text → Option (α × Text)} {x : α}
    (h : ∀ w, IsTail w → f (u ++ w) = some (x, rest ++ w)) : Lasts f u x rest :=
  .inl h

/-- A reader lasts as another one does that comes to the same before every tail. -/
theorem Lasts.congr {α : Type} {f g : Text → Option (α × Text)} {u u' : Text} {x : α}
    (h : Lasts g u' x rest) (hfg : ∀ w, IsTail w → f (u ++ w) = g (u' ++ w)) :
    Lasts f u x rest := by
  rcases h with hall | ⟨hrest, hall⟩
  · exact .inl fun w hw => (hfg w hw).trans (hall w hw)
  · exact .inr ⟨hrest, fun w hw => (hfg w hw).trans (hall w hw)⟩

/-- What is made of what has been read changes nothing. -/
theorem Lasts.map {α β : Type} {f : Text → Option (α × Text)} {x : α} (g : α → β)
    (h : Lasts f u x rest) :
    Lasts (fun t => (f t).map fun read => (g read.1, read.2)) u (g x) rest := by
  rcases h with hall | ⟨hrest, hall⟩
  · refine .inl fun w hw => ?_
    simp only
    rw [hall w hw]
    rfl
  · refine .inr ⟨hrest, fun w hw => ?_⟩
    simp only
    rw [hall w hw]
    rfl

/-! ## Runs, blanks and comments -/

/-- A run that ends before the text does is the same whatever is put behind the text. -/
theorem spanSpread_append (h : spanSpread verbose inComment p u = (run, rest)) (hrest : rest ≠ [])
    (w : Text) : spanSpread verbose inComment p (u ++ w) = (run, rest ++ w) := by
  -- on the text: each character is passed over, taken, or ends the run
  induction u generalizing inComment run with
  | nil =>
    rw [spanSpread, Prod.mk.injEq] at h
    exact absurd h.2.symm hrest
  | cons c u ih =>
    rw [List.cons_append]
    rw [spanSpread] at h ⊢
    by_cases hin : inComment = true
    · rw [if_pos hin] at h ⊢
      exact ih h
    rw [if_neg hin] at h ⊢
    by_cases hblank : (verbose && Unicode.isBlank c) = true
    · rw [if_pos hblank] at h ⊢
      exact ih h
    rw [if_neg hblank] at h ⊢
    by_cases hhash : (verbose && c == '#') = true
    · rw [if_pos hhash] at h ⊢
      exact ih h
    rw [if_neg hhash] at h ⊢
    by_cases hp : p c = true
    · rw [if_pos hp] at h ⊢
      rw [Prod.mk.injEq] at h
      rw [ih (Prod.ext rfl h.2), ← h.1]
    · rw [if_neg hp] at h ⊢
      rw [Prod.mk.injEq] at h
      rw [← h.1, ← h.2, List.cons_append]

/-- An open comment takes all of a text in one line. -/
theorem spanSpread_comment (hw : '\n' ∉ w) : spanSpread verbose true p w = ([], []) := by
  induction w with
  | nil => rfl
  | cons c w ih =>
    rw [List.mem_cons, not_or] at hw
    obtain ⟨hc, hw⟩ := hw
    rw [spanSpread, if_pos rfl, decide_eq_true (Ne.symm hc)]
    exact ih hw

/-- A run that no closing parenthesis belongs to takes nothing of a tail. -/
theorem spanSpread_tail (hp : p ')' = false) (hw : IsTail w) :
    spanSpread verbose false p w = ([], w) := by
  obtain ⟨v, rfl, -⟩ := hw
  have hblank : Unicode.isBlank ')' = false := by decide
  simp [spanSpread, hp, hblank]

/-- A run that ends with the text ends before a tail, or a comment takes the tail. -/
theorem spanSpread_append_tail (hp : p ')' = false)
    (h : spanSpread verbose inComment p u = (run, [])) :
    (∀ w, IsTail w → spanSpread verbose inComment p (u ++ w) = (run, w)) ∨
      ∀ w, IsTail w → spanSpread verbose inComment p (u ++ w) = (run, []) := by
  -- on the text: it only matters at its end whether a comment is open
  induction u generalizing inComment run with
  | nil =>
    obtain rfl : run = [] := (Prod.mk.inj h).1.symm
    cases inComment with
    | false => exact .inl fun w hw => spanSpread_tail hp hw
    | true => exact .inr fun w hw => spanSpread_comment hw.no_newline
  | cons c u ih =>
    simp only [List.cons_append]
    simp only [spanSpread] at h ⊢
    by_cases hin : inComment = true
    · simp only [if_pos hin] at h ⊢
      exact ih h
    simp only [if_neg hin] at h ⊢
    by_cases hblank : (verbose && Unicode.isBlank c) = true
    · simp only [if_pos hblank] at h ⊢
      exact ih h
    simp only [if_neg hblank] at h ⊢
    by_cases hhash : (verbose && c == '#') = true
    · simp only [if_pos hhash] at h ⊢
      exact ih h
    simp only [if_neg hhash] at h ⊢
    by_cases hpc : p c = true
    · simp only [if_pos hpc, Prod.mk.injEq] at h ⊢
      obtain ⟨rfl, hrest⟩ := h
      rcases ih (Prod.ext rfl hrest) with hall | hall
      · exact .inl fun w hw => by simp only [hall w hw, and_self]
      · exact .inr fun w hw => by simp only [hall w hw, and_self]
    · simp only [if_neg hpc, Prod.mk.injEq] at h
      cases h.2

/-- Blanks that end before the text does end there whatever follows. -/
theorem skipSpread_append (h : skipSpread verbose u ≠ []) (w : Text) :
    skipSpread verbose (u ++ w) = skipSpread verbose u ++ w := by
  unfold skipSpread
  rw [spanSpread_append rfl h]

/-- Blanks end before a tail, or they end in a comment that takes it. -/
theorem skipSpread_append_tail (verbose : Bool) (u : Text) :
    (∀ w, IsTail w → skipSpread verbose (u ++ w) = skipSpread verbose u ++ w) ∨
      skipSpread verbose u = [] ∧ ∀ w, IsTail w → skipSpread verbose (u ++ w) = [] := by
  by_cases h : skipSpread verbose u = []
  · have hspan : spanSpread verbose false (fun _ => false) u =
        ((spanSpread verbose false (fun _ => false) u).1, []) := Prod.ext rfl h
    rcases spanSpread_append_tail rfl hspan with hall | hall
    · refine .inl fun w hw => ?_
      rw [h, List.nil_append, skipSpread, hall w hw]
    · refine .inr ⟨h, fun w hw => ?_⟩
      rw [skipSpread, hall w hw]
  · exact .inl fun w _ => skipSpread_append h w

/-- There are no blanks at the front of a tail. -/
theorem skipSpread_tail (verbose : Bool) (hw : IsTail w) : skipSpread verbose w = w := by
  rw [skipSpread, spanSpread_tail rfl hw]

theorem skipSpread_false (t : Text) : skipSpread false t = t := by
  cases t <;> rfl

/-! ## Escapes -/

variable {count : Nat} {i : Item}

/-- Digits that have been counted are enough, whatever follows. -/
theorem readHexDigits?_append {digits : Text}
    (h : readHexDigits? verbose count u = some (digits, rest)) (w : Text) :
    readHexDigits? verbose count (u ++ w) = some (digits, rest ++ w) := by
  induction count generalizing u digits with
  | zero =>
    rw [readHexDigits?, Option.some.injEq, Prod.mk.injEq] at h
    rw [readHexDigits?, h.1, h.2]
  | succ count ih =>
    rw [readHexDigits?] at h ⊢
    cases hs : skipSpread verbose u with
    | nil =>
      rw [hs] at h
      cases h
    | cons c s =>
      rw [skipSpread_append (by simp [hs])]
      rw [hs] at h ⊢
      simp only [List.cons_append] at h ⊢
      by_cases hc : isHexDigit c = true
      · simp only [if_pos hc, Option.map_eq_some_iff, Prod.mk.injEq] at h ⊢
        obtain ⟨⟨digits', rest'⟩, hread, rfl, rfl⟩ := h
        exact ⟨(digits', rest' ++ w), ih hread, rfl, rfl⟩
      · rw [if_neg hc] at h
        cases h

/-- A character in hexadecimal is read whatever follows. -/
theorem readHex?_append (h : readHex? verbose (count + 1) u = some (i, rest)) (w : Text) :
    readHex? verbose (count + 1) (u ++ w) = some (i, rest ++ w) := by
  unfold readHex? at h ⊢
  cases hs : skipSpread verbose u with
  | nil =>
    rw [hs] at h
    have hnil : skipSpread verbose [] = [] := rfl
    simp [readHexDigits?, hnil] at h
  | cons c s =>
    rw [skipSpread_append (by simp [hs])]
    rw [hs] at h ⊢
    by_cases hc : c = '{'
    · subst hc
      simp only [List.cons_append] at h ⊢
      split at h
      · next digits rest' hspan =>
        rw [spanSpread_append hspan (by simp)]
        simp only [List.cons_append]
        by_cases hd : digits = []
        · rw [if_pos hd] at h
          cases h
        · simp only [if_neg hd, Option.map_eq_some_iff, Prod.mk.injEq] at h ⊢
          obtain ⟨d, hd, rfl, rfl⟩ := h
          exact ⟨d, hd, rfl, rfl⟩
      · cases h
    · simp only [List.cons_append, hc, List.cons.injEq, false_and, imp_false, not_false_eq_true,
        implies_true] at h ⊢
      split at h
      · cases h
      · next digits rest' hread =>
        rw [← List.cons_append, readHexDigits?_append hread]
        simp only [Option.map_eq_some_iff, Prod.mk.injEq] at h ⊢
        obtain ⟨d, hd, rfl, rfl⟩ := h
        exact ⟨d, hd, rfl, rfl⟩

/-- A class of characters is read by its name whatever follows. -/
theorem readProperty?_append {negated : Bool}
    (h : readProperty? verbose negated u = some (i, rest)) (w : Text) :
    readProperty? verbose negated (u ++ w) = some (i, rest ++ w) := by
  unfold readProperty? at h ⊢
  cases hs : skipSpread verbose u with
  | nil =>
    rw [hs] at h
    cases h
  | cons c s =>
    rw [skipSpread_append (by simp [hs])]
    rw [hs] at h ⊢
    by_cases hc : c = '{'
    · subst hc
      simp only [List.cons_append] at h ⊢
      split at h
      · next name rest' hspan =>
        rw [spanSpread_append hspan (by simp)]
        simp only [List.cons_append, Option.map_eq_some_iff, Prod.mk.injEq] at h ⊢
        obtain ⟨d, hd, rfl, rfl⟩ := h
        exact ⟨d, hd, rfl, rfl⟩
      · cases h
    · simp only [List.cons_append, Option.map_eq_some_iff, Prod.mk.injEq] at h ⊢
      obtain ⟨d, hd, rfl, rfl⟩ := h
      exact ⟨d, hd, rfl, rfl⟩

/-- No tail names the edge of a word. -/
theorem readEdge?_append {e : WordEdge} (h : readEdge? verbose u = some (e, rest))
    (hw : IsTail w) : readEdge? verbose (u ++ w) = some (e, rest ++ w) := by
  cases u with
  | nil =>
    obtain ⟨v, rfl, -⟩ := hw
    cases h
    rfl
  | cons c u =>
    by_cases hc : c = '{'
    · subst hc
      simp only [readEdge?, List.cons_append] at h ⊢
      cases hs : skipSpread verbose u with
      | nil =>
        rw [hs] at h
        cases h
      | cons d s =>
        rw [skipSpread_append (by simp [hs])]
        rw [hs] at h ⊢
        simp only [List.cons_append] at h ⊢
        -- a letter behind the brace begins a name, and anything else a repetition
        by_cases hd : isEdgeLetter d = true
        · simp only [if_pos hd] at h ⊢
          split at h
          · next name rest' hspan =>
            rw [spanSpread_append hspan (by simp)]
            simp only [List.cons_append, Option.map_eq_some_iff, Prod.mk.injEq] at h ⊢
            obtain ⟨e', he, rfl, rfl⟩ := h
            exact ⟨e', he, rfl, rfl⟩
          · cases h
        · simp only [if_neg hd, Option.some.injEq, Prod.mk.injEq] at h ⊢
          exact ⟨h.1, h.2 ▸ rfl⟩
    · simp only [readEdge?, List.cons_append, hc, List.cons.injEq, false_and, imp_false,
        not_false_eq_true, implies_true, Option.some.injEq, Prod.mk.injEq] at h ⊢
      exact ⟨h.1, h.2 ▸ rfl⟩

/-- An escape is read before a tail as it is at the end. -/
theorem readEscape?_append {e : Escape} (h : readEscape? verbose u = some (e, rest))
    (hw : IsTail w) : readEscape? verbose (u ++ w) = some (e, rest ++ w) := by
  revert h
  fun_cases readEscape? verbose u <;> intro h
  case case1 => cases h
  -- a number in hexadecimal digits
  case case2 | case3 | case4 =>
    simp only [readEscape?, List.cons_append, Option.map_eq_some_iff] at h ⊢
    obtain ⟨⟨i, rest'⟩, hread, he⟩ := h
    obtain ⟨rfl, rfl⟩ := Prod.mk.inj he
    exact ⟨_, readHex?_append hread w, rfl⟩
  -- a property of characters
  case case5 | case6 =>
    simp only [readEscape?, List.cons_append, Option.map_eq_some_iff] at h ⊢
    obtain ⟨⟨i, rest'⟩, hread, he⟩ := h
    obtain ⟨rfl, rfl⟩ := Prod.mk.inj he
    exact ⟨_, readProperty?_append hread w, rfl⟩
  -- an edge of a word, which may be named in braces
  case case21 =>
    simp only [readEscape?, List.cons_append, Option.map_eq_some_iff] at h ⊢
    obtain ⟨⟨edge, rest'⟩, hread, he⟩ := h
    obtain ⟨rfl, rfl⟩ := Prod.mk.inj he
    exact ⟨_, readEdge?_append hread hw, rfl⟩
  -- a sign that stands for itself, or may not
  case case25 =>
    cases h
    simp [readEscape?, *]
  case case26 => cases h
  all_goals
    cases h
    rfl

/-! ## Groups and repetitions -/

/-- Flags end with a sign of their own, whatever follows. -/
theorem readFlags?_append {off : Bool} {changes new : FlagChanges} {sign : Char}
    (h : readFlags? off changes u = some (new, sign, rest)) (w : Text) :
    readFlags? off changes (u ++ w) = some (new, sign, rest ++ w) := by
  -- on the text: what ends the flags is there before anything follows
  induction u generalizing off changes with
  | nil => cases h
  | cons c u ih =>
    rw [List.cons_append]
    rw [readFlags?] at h ⊢
    by_cases hsign : c = ':' ∨ c = ')'
    · rw [if_pos hsign] at h ⊢
      cases h
      rfl
    rw [if_neg hsign] at h ⊢
    by_cases hdash : c = '-'
    · rw [if_pos hdash] at h ⊢
      cases u with
      | nil => simp [readFlags?] at h
      | cons d u =>
        simp only [List.cons_append, List.head?_cons, Option.some.injEq] at h ih ⊢
        by_cases hoff : off = true ∨ d = ':' ∨ d = ')'
        · rw [if_pos hoff] at h
          cases h
        · rw [if_neg hoff] at h ⊢
          exact ih h
    · rw [if_neg hdash] at h ⊢
      cases hf : Flag.ofChar? c with
      | none =>
        rw [hf] at h
        cases h
      | some f =>
        simp only [hf] at h ⊢
        by_cases htwice : (changes.any fun change => change.1 == f) = true
        · rw [if_pos htwice] at h
          cases h
        · rw [if_neg htwice] at h ⊢
          exact ih h

/-- The name of a group ends with a sign of its own, whatever follows. -/
theorem readGroupName?_append {name : Text} (h : readGroupName? u = some (name, rest)) (w : Text) :
    readGroupName? (u ++ w) = some (name, rest ++ w) := by
  cases u with
  | nil => cases h
  | cons c u =>
    rw [List.cons_append]
    rw [readGroupName?] at h ⊢
    by_cases hc : isNameStart c = true
    · rw [if_pos hc] at h ⊢
      split at h
      · next after hdrop =>
        cases h
        have hne : u.dropWhile isNamePart ≠ [] := by simp [hdrop]
        rw [Text.dropWhile_append_of_ne_nil hne, Text.takeWhile_append_of_ne_nil hne, hdrop]
        rfl
      · cases h
    · rw [if_neg hc] at h
      cases h

/-- A sign that is no closing parenthesis does not begin a tail. -/
theorem cons_of_append_tail {v s : Text} (hc : c ≠ ')') (h : u ++ ')' :: v = c :: s) :
    ∃ u', u = c :: u' ∧ u' ++ ')' :: v = s := by
  cases u with
  | nil => exact absurd (List.cons.inj h).1.symm hc
  | cons d u =>
    obtain ⟨rfl, hs⟩ := List.cons.inj h
    exact ⟨u, rfl, hs⟩

/-- A question mark says what kind of group is opened, and no comment can be open behind it. -/
theorem readGroup?_question_append {t : Text} {token : Token}
    (hs : skipSpread verbose u = '?' :: t) (h : readGroup? verbose u = some (token, rest))
    (hw : IsTail w) : readGroup? verbose (u ++ w) = some (token, rest ++ w) := by
  unfold readGroup? at h ⊢
  rw [skipSpread_append (by simp [hs])]
  rw [hs] at h ⊢
  obtain ⟨v, rfl, -⟩ := hw
  rw [List.cons_append]
  split at h
  · next name he =>
    obtain rfl := (List.cons.inj he).2
    simp only [List.cons_append, Option.map_eq_some_iff, Prod.mk.injEq] at h ⊢
    obtain ⟨⟨name, after⟩, hread, rfl, rfl⟩ := h
    exact ⟨_, readGroupName?_append hread _, rfl, rfl⟩
  · next name he =>
    obtain rfl := (List.cons.inj he).2
    simp only [List.cons_append, Option.map_eq_some_iff, Prod.mk.injEq] at h ⊢
    obtain ⟨⟨name, after⟩, hread, rfl, rfl⟩ := h
    exact ⟨_, readGroupName?_append hread _, rfl, rfl⟩
  · next flags hP hL he =>
    obtain rfl := (List.cons.inj he).2
    -- the tail makes no name of what was none before
    split
    · next he' =>
      obtain ⟨s', rfl, hs'⟩ := cons_of_append_tail (by decide) (List.cons.inj he').2
      obtain ⟨s'', rfl, -⟩ := cons_of_append_tail (by decide) hs'
      exact absurd rfl (hP s'')
    · next he' =>
      obtain ⟨s', rfl, -⟩ := cons_of_append_tail (by decide) (List.cons.inj he').2
      exact absurd rfl (hL s')
    · next he' =>
      obtain rfl := (List.cons.inj he').2
      split at h
      · cases h
      · next hread =>
        rw [readFlags?_append hread]
        simp only
        split at h
        · next hsign =>
          rw [if_pos hsign]
          cases h
          rfl
        · next hsign =>
          rw [if_neg hsign]
          split at h
          · cases h
          · next hne =>
            rw [if_neg hne]
            cases h
            rfl
    · next hne => exact absurd rfl (hne _)
  · next hne => exact absurd rfl (hne _)

/-- A parenthesis without a question mark opens a group that captures. -/
theorem readGroup?_of_no_question (hno : ∀ t, skipSpread verbose u ≠ '?' :: t) :
    readGroup? verbose u = some (.captureOpen none, skipSpread verbose u) := by
  unfold readGroup?
  split
  · next he => exact absurd he (hno _)
  · next he => exact absurd he (hno _)
  · next he => exact absurd he (hno _)
  · rfl

/-- A group is opened alike before a tail. -/
theorem readGroup?_lasts {token : Token} (h : readGroup? verbose u = some (token, rest)) :
    Lasts (readGroup? verbose) u token rest := by
  by_cases hquestion : ∃ t, skipSpread verbose u = '?' :: t
  · obtain ⟨t, hs⟩ := hquestion
    exact .of_append fun w hw => readGroup?_question_append hs h hw
  · rw [readGroup?_of_no_question fun t hs => hquestion ⟨t, hs⟩] at h
    cases h
    rcases skipSpread_append_tail verbose u with hall | ⟨hnil, hall⟩
    · refine .inl fun w hw => ?_
      rw [readGroup?_of_no_question, hall w hw]
      intro t hs
      rw [hall w hw] at hs
      obtain ⟨v, rfl, -⟩ := hw
      obtain ⟨t', hs, -⟩ := cons_of_append_tail (by decide) hs
      exact hquestion ⟨t', hs⟩
    · refine .inr ⟨hnil, fun w hw => ?_⟩
      rw [readGroup?_of_no_question, hall w hw]
      intro t hs
      rw [hall w hw] at hs
      cases hs

/-- A tail does not say that few rounds are preferred. -/
theorem repetition_append {least : Nat} {most : Option Nat} (hw : IsTail w) :
    repetition least most (u ++ w) =
      ((repetition least most u).1, (repetition least most u).2 ++ w) := by
  obtain ⟨v, rfl, -⟩ := hw
  cases u with
  | nil => rfl
  | cons c u =>
    by_cases hc : c = '?'
    · subst hc
      rfl
    · simp [repetition, hc]

/-- A number of rounds that something follows is read whatever comes behind that. -/
theorem readRounds?_append {n : Nat} (h : readRounds? verbose u = some (n, rest))
    (hrest : rest ≠ []) (w : Text) : readRounds? verbose (u ++ w) = some (n, rest ++ w) := by
  unfold readRounds? at h ⊢
  simp only at h ⊢
  generalize hs : skipSpread verbose u = s at h
  generalize hb : s.dropWhile Unicode.isBlank = b at h
  generalize hd : spanSpread verbose false Char.isDigit b = d at h
  obtain ⟨digits, after⟩ := d
  simp only at h
  split at h
  · cases h
  · next hno =>
    obtain ⟨rfl, rfl⟩ := Prod.mk.inj (Option.some.inj h)
    -- something is left at the end, so nothing before it has used the text up
    have hafter : after ≠ [] := by
      intro hnil
      subst hnil
      exact hrest rfl
    have hb' : b ≠ [] := by
      intro hnil
      subst hnil
      exact hafter (Prod.mk.inj hd).2.symm
    have hs' : s ≠ [] := by
      intro hnil
      subst hnil
      exact hb' hb.symm
    rw [skipSpread_append (by rwa [hs]), hs, Text.dropWhile_append_of_ne_nil (by rwa [hb]), hb,
      spanSpread_append hd hafter]
    simp only
    rw [if_neg hno, Text.dropWhile_append_of_ne_nil hrest]

theorem repetition_skipSpread_lasts {least : Nat} {most : Option Nat} {token : Token}
    (h : repetition least most (skipSpread verbose u) = (token, rest)) :
    Lasts (fun t => some (repetition least most (skipSpread verbose t))) u token rest := by
  rcases skipSpread_append_tail verbose u with hall | ⟨hnil, hall⟩
  · refine .inl fun w hw => ?_
    simp only
    rw [hall w hw, repetition_append hw, h]
  · rw [hnil] at h
    cases h
    refine .inr ⟨rfl, fun w hw => ?_⟩
    simp only
    rw [hall w hw]
    rfl

/-- A repetition in braces is read alike before a tail. -/
theorem readRepetition?_lasts {token : Token}
    (h : readRepetition? verbose u = some (token, rest)) :
    Lasts (readRepetition? verbose) u token rest := by
  unfold readRepetition? at h
  split at h
  · next least after hleast =>
    refine (repetition_skipSpread_lasts (Option.some.inj h)).congr fun w _ => ?_
    unfold readRepetition?
    rw [readRounds?_append hleast (by simp)]
    rfl
  · next least after hleast =>
    cases hs : skipSpread verbose after with
    | nil =>
      rw [hs] at h
      have hnil : readRounds? verbose [] = none := rfl
      simp [hnil] at h
    | cons c s =>
      have hskip : ∀ w, skipSpread verbose (after ++ w) = c :: s ++ w := by
        intro w
        rw [skipSpread_append (by simp [hs]), hs]
      rw [hs] at h
      -- the sign behind the comma is there before any tail
      by_cases hc : c = '}'
      · subst hc
        refine (repetition_skipSpread_lasts (Option.some.inj h)).congr fun w _ => ?_
        unfold readRepetition?
        rw [readRounds?_append hleast (by simp), List.cons_append]
        simp only
        rw [hskip]
        rfl
      · simp only [List.cons.injEq, hc, false_and, imp_false, not_false_eq_true, implies_true] at h
        split at h
        · next most rest' hmost =>
          split at h
          · next hle =>
            refine (repetition_skipSpread_lasts (Option.some.inj h)).congr fun w _ => ?_
            unfold readRepetition?
            rw [readRounds?_append hleast (by simp), List.cons_append]
            simp only
            rw [hskip]
            simp only [List.cons_append, List.cons.injEq, hc, false_and, imp_false,
              not_false_eq_true, implies_true]
            rw [← List.cons_append, readRounds?_append hmost (by simp), List.cons_append]
            simp only
            rw [if_pos hle]
          · cases h
        · cases h
  · cases h

/-! ## Brackets -/

/-- Brackets and what may stand at their start are read whatever follows. -/
theorem readSetStart?_append {negated : Bool} {token : Token}
    (h : readSetStart? verbose negated u = some (token, rest)) (w : Text) :
    readSetStart? verbose negated (u ++ w) = some (token, rest ++ w) := by
  unfold readSetStart? at h ⊢
  cases hspan : spanSpread verbose false (· == '-') u with
  | mk run after =>
    rw [hspan] at h
    cases after with
    | nil => cases h
    | cons d after =>
      rw [spanSpread_append hspan (by simp), List.cons_append]
      by_cases hd : d = ']'
      · subst hd
        cases run with
        | nil =>
          cases h
          rfl
        | cons a run =>
          cases h
          rfl
      · simp only [List.cons.injEq, Prod.mk.injEq, hd, false_and, imp_false,
          not_false_eq_true, implies_true, Option.some.injEq] at h ⊢
        exact ⟨h.1, h.2 ▸ rfl⟩

theorem readSetOpen?_append {token : Token} (h : readSetOpen? verbose u = some (token, rest))
    (w : Text) : readSetOpen? verbose (u ++ w) = some (token, rest ++ w) := by
  unfold readSetOpen? at h ⊢
  cases hs : skipSpread verbose u with
  | nil =>
    rw [hs] at h
    cases h
  | cons c s =>
    rw [skipSpread_append (by simp [hs])]
    rw [hs] at h ⊢
    by_cases hc : c = '^'
    · subst hc
      exact readSetStart?_append h w
    · simp only [List.cons_append, List.cons.injEq, hc, false_and, imp_false, not_false_eq_true,
        implies_true] at h ⊢
      exact readSetStart?_append h w

/-- A fixed text without closing parentheses does not reach into a tail. -/
theorem after?_append_tail {start t : Text} (hstart : ')' ∉ start) (hw : IsTail w) :
    Text.after? start (t ++ w) = (Text.after? start t).map (· ++ w) := by
  obtain ⟨v, rfl, -⟩ := hw
  induction start generalizing t with
  | nil => rfl
  | cons a start ih =>
    rw [List.mem_cons, not_or] at hstart
    cases t with
    | nil => simp [Text.after?, Ne.symm hstart.1]
    | cons c t =>
      simp only [List.cons_append, Text.after?]
      by_cases hc : a = c
      · rw [if_pos hc, if_pos hc]
        exact ih hstart.2
      · rw [if_neg hc, if_neg hc]
        rfl

/-- The name of a class in brackets does not reach into a tail. -/
theorem readAsciiName?_append {negated : Bool} (hw : IsTail w) :
    readAsciiName? negated (u ++ w) =
      (readAsciiName? negated u).map fun x => (x.1, x.2 ++ w) := by
  unfold readAsciiName?
  rw [List.map_findSome?]
  congr 1
  funext k
  have hk : ')' ∉ k.name ++ [':', ']'] := by cases k <;> decide
  rw [Function.comp, after?_append_tail hk hw, Option.map_map, Option.map_map]
  rfl

theorem readAsciiClass?_append (hw : IsTail w) :
    readAsciiClass? (u ++ w) = (readAsciiClass? u).map fun x => (x.1, x.2 ++ w) := by
  by_cases hu : ∃ s, u = '[' :: ':' :: s
  · obtain ⟨s, rfl⟩ := hu
    -- a caret negates the class
    by_cases hs : ∃ s', s = '^' :: s'
    · obtain ⟨s', rfl⟩ := hs
      exact readAsciiName?_append hw
    · have hplain : ∀ t : Text, (∀ s', t ≠ '^' :: s') →
          readAsciiClass? ('[' :: ':' :: t) = readAsciiName? false t := by
        intro t ht
        unfold readAsciiClass?
        split
        · next s' he => exact absurd (List.cons.inj (List.cons.inj he).2).2 (ht s')
        · next he => rw [(List.cons.inj (List.cons.inj he).2).2]
        · next hne => exact absurd rfl (hne t)
      rw [List.cons_append, List.cons_append, hplain s (fun s' h => hs ⟨s', h⟩), hplain,
        readAsciiName?_append hw]
      intro s' h
      obtain ⟨v, rfl, -⟩ := hw
      obtain ⟨s'', rfl, -⟩ := cons_of_append_tail (by decide) h
      exact hs ⟨s'', rfl⟩
  -- a tail cannot go on a class that has not begun
  · have hnone : ∀ t : Text, (∀ s, t ≠ '[' :: ':' :: s) → readAsciiClass? t = none := by
      intro t ht
      unfold readAsciiClass?
      split
      · exact absurd rfl (ht _)
      · exact absurd rfl (ht _)
      · rfl
    rw [hnone u (fun s h => hu ⟨s, h⟩), hnone]
    · rfl
    · intro s h
      obtain ⟨v, rfl, -⟩ := hw
      obtain ⟨s', rfl, h'⟩ := cons_of_append_tail (by decide) h
      obtain ⟨s'', rfl, -⟩ := cons_of_append_tail (by decide) h'
      exact hu ⟨s'', rfl⟩

/-- A member of a set is read before a tail as it is at the end. -/
theorem readMember?_append (h : readMember? verbose u = some (i, rest)) (hw : IsTail w) :
    readMember? verbose (u ++ w) = some (i, rest ++ w) := by
  cases u with
  | nil => cases h
  | cons c u =>
    by_cases hc : c = '\\'
    · subst hc
      simp only [readMember?, List.cons_append] at h ⊢
      split at h
      · next i' rest' hread =>
        cases h
        rw [readEscape?_append hread hw]
      · cases h
    · simp only [readMember?, List.cons_append, Option.some.injEq, Prod.mk.injEq] at h ⊢
      exact ⟨h.1, h.2 ▸ rfl⟩

/-- Behind blanks stands what stood there before, or the parenthesis of a tail. -/
theorem head?_dropWhile_append (hw : IsTail w) :
    ((u ++ w).dropWhile Unicode.isBlank).head? =
      (u.dropWhile Unicode.isBlank).head?.or (some ')') := by
  by_cases h : u.dropWhile Unicode.isBlank = []
  · obtain ⟨v, rfl, -⟩ := hw
    have hblank : Unicode.isBlank ')' = false := by decide
    rw [List.dropWhile_append, h]
    simp [hblank]
  · obtain ⟨c, s, hs⟩ := List.exists_cons_of_ne_nil h
    rw [Text.dropWhile_append_of_ne_nil h, hs]
    rfl

/-- The sign of a tail shows only if the text has none. -/
theorem nextSign_append (hw : IsTail w) :
    nextSign verbose (u ++ w) = (nextSign verbose u).or (some ')') := by
  cases verbose with
  | false =>
    obtain ⟨v, rfl, -⟩ := hw
    simp only [nextSign, Bool.false_eq_true, if_false, List.head?_append, List.head?_cons]
  | true =>
    simp only [nextSign, if_true]
    have hhead := head?_dropWhile_append (u := u) hw
    cases hu : u.dropWhile Unicode.isBlank with
    | nil =>
      rw [hu, List.head?_nil, Option.none_or] at hhead
      obtain ⟨s, hs⟩ := List.head?_eq_some_iff.1 hhead
      rw [hs]
      rfl
    | cons d s =>
      rw [Text.dropWhile_append_of_ne_nil (by simp [hu]), hu, List.cons_append]
      by_cases hd : d = '#'
      · subst hd
        exact head?_dropWhile_append hw
      · simp [hd]

/-- A tail changes the next sign to nothing but its own. -/
theorem nextSign_append_eq_iff {d : Char} (hw : IsTail w) (hd : d ≠ ')') :
    nextSign verbose (u ++ w) = some d ↔ nextSign verbose u = some d := by
  rw [nextSign_append hw]
  cases nextSign verbose u <;> simp [hd.symm]

theorem readRangeEnd?_append {first : Item}
    (h : readRangeEnd? verbose first u = some (i, rest)) (hw : IsTail w) :
    readRangeEnd? verbose first (u ++ w) = some (i, rest ++ w) := by
  unfold readRangeEnd? at h ⊢
  have hne : skipSpread verbose u ≠ [] := by
    intro hnil
    rw [hnil] at h
    cases h
  rw [skipSpread_append hne]
  split at h
  · cases h
  · next last rest' hlast =>
    rw [readMember?_append hlast hw]
    simp only
    split at h
    · next low high hlow hhigh =>
      split at h
      · next hle =>
        rw [if_pos hle]
        cases h
        rfl
      · cases h
    · cases h

/-- A range is read alike before a tail. -/
theorem readRange?_lasts (h : readRange? verbose u = some (i, rest)) :
    Lasts (readRange? verbose) u i rest := by
  unfold Lasts readRange?
  unfold readRange? at h
  cases hm : readMember? verbose u with
  | none =>
    rw [hm] at h
    cases h
  | some m =>
    obtain ⟨first, after⟩ := m
    rw [hm] at h
    simp only at h
    cases hs : skipSpread verbose after with
    | nil =>
      rw [hs] at h
      cases h
      -- a tail is no dash, and a comment behind the member may take it
      rcases skipSpread_append_tail verbose after with hall | ⟨-, hall⟩
      · refine .inl fun w hw => ?_
        rw [readMember?_append hm hw]
        simp only
        rw [hall w hw, hs]
        obtain ⟨v, rfl, -⟩ := hw
        rfl
      · refine .inr ⟨rfl, fun w hw => ?_⟩
        rw [readMember?_append hm hw]
        simp only
        rw [hall w hw]
    | cons c s =>
      refine .inl fun w hw => ?_
      rw [readMember?_append hm hw]
      simp only
      rw [skipSpread_append (by simp [hs])]
      rw [hs] at h ⊢
      -- no tail changes the sign behind a dash
      by_cases hc : c = '-'
      · subst hc
        simp only [List.cons_append] at h ⊢
        have hbracket : nextSign verbose (s ++ w) = some ']' ↔ nextSign verbose s = some ']' :=
          nextSign_append_eq_iff hw (by decide)
        have hdash : nextSign verbose (s ++ w) = some '-' ↔ nextSign verbose s = some '-' :=
          nextSign_append_eq_iff hw (by decide)
        have hmember := or_congr hbracket hdash
        split at h
        · next hyes =>
          rw [if_pos (hmember.2 hyes)]
          cases h
          rfl
        · next hno =>
          rw [if_neg (mt hmember.1 hno)]
          exact readRangeEnd?_append h hw
      · simp only [List.cons_append, List.cons.injEq, hc, false_and, imp_false, not_false_eq_true,
          implies_true, Option.some.injEq, Prod.mk.injEq] at h ⊢
        exact ⟨h.1, h.2 ▸ rfl⟩

/-! ## Tokens -/

/-- A token inside of brackets is read alike before a tail. -/
theorem readInside?_lasts {token : Token} (h : readInside? verbose u = some (token, rest)) :
    Lasts (readInside? verbose) u token rest := by
  revert h
  fun_cases readInside? verbose u <;> intro h
  case case1 s i' rest' hclass =>
    rw [hclass] at h
    cases h
    refine .of_append fun w hw => ?_
    rw [List.cons_append, readInside?, ← List.cons_append, readAsciiClass?_append hw, hclass]
    rfl
  case case2 s hclass =>
    rw [hclass] at h
    refine .of_append fun w hw => ?_
    rw [List.cons_append, readInside?, ← List.cons_append, readAsciiClass?_append hw, hclass]
    exact readSetOpen?_append h w
  -- a member, since the tail makes no bracket or operator of it
  case case7 hopen hclose hinter hdiff hsymm =>
    obtain ⟨⟨i', rest'⟩, hread, he⟩ := Option.map_eq_some_iff.1 h
    obtain ⟨rfl, rfl⟩ := Prod.mk.inj he
    refine ((readRange?_lasts hread).map Token.item).congr fun w hw => ?_
    obtain ⟨v, rfl, -⟩ := hw
    unfold readInside?
    split
    · next he =>
      obtain ⟨s, hs, -⟩ := cons_of_append_tail (by decide) he
      exact (hopen s hs).elim
    · next he =>
      obtain ⟨s, hs, -⟩ := cons_of_append_tail (by decide) he
      exact (hclose s hs).elim
    · next he =>
      obtain ⟨s, rfl, hs⟩ := cons_of_append_tail (by decide) he
      obtain ⟨s', rfl, -⟩ := cons_of_append_tail (by decide) hs
      exact (hinter s' rfl).elim
    · next he =>
      obtain ⟨s, rfl, hs⟩ := cons_of_append_tail (by decide) he
      obtain ⟨s', rfl, -⟩ := cons_of_append_tail (by decide) hs
      exact (hdiff s' rfl).elim
    · next he =>
      obtain ⟨s, rfl, hs⟩ := cons_of_append_tail (by decide) he
      obtain ⟨s', rfl, -⟩ := cons_of_append_tail (by decide) hs
      exact (hsymm s' rfl).elim
    · rfl
  all_goals
    cases h
    exact .of_append fun w _ => rfl

/-- A token outside of brackets is read alike before a tail. -/
theorem readOutside?_lasts {token : Token} (h : readOutside? verbose u = some (token, rest)) :
    Lasts (readOutside? verbose) u token rest := by
  revert h
  fun_cases readOutside? verbose u <;> intro h
  case case1 => cases h
  case case2 s => exact (readGroup?_lasts h).congr fun w _ => rfl
  case case5 s => exact .of_append fun w _ => readSetOpen?_append h w
  -- a repetition: the sign behind it that makes it lazy is not in the tail
  case case6 | case7 | case8 =>
    refine .of_append fun w hw => ?_
    rw [List.cons_append, readOutside?, repetition_append hw, Option.some.inj h]
  case case9 s => exact (readRepetition?_lasts h).congr fun w _ => rfl
  -- an escape
  case case13 s =>
    refine .of_append fun w hw => ?_
    obtain ⟨⟨e, rest'⟩, hread, he⟩ := Option.map_eq_some_iff.1 h
    obtain ⟨rfl, rfl⟩ := Prod.mk.inj he
    rw [List.cons_append, readOutside?, readEscape?_append hread hw]
    rfl
  -- a sign that stands for itself
  case case14 =>
    cases h
    exact .of_append fun w _ => by simp [readOutside?, *]
  all_goals
    cases h
    exact .of_append fun w _ => rfl

/-- A token is read alike before a tail. -/
theorem readToken?_lasts {s : Surroundings} {token : Token}
    (h : s.readToken? u = some (token, rest)) : Lasts s.readToken? u token rest := by
  unfold Surroundings.readToken? at h
  by_cases hdepth : s.depth = 0
  · rw [if_pos hdepth] at h
    exact (readOutside?_lasts h).congr fun w _ => if_pos hdepth
  · rw [if_neg hdepth] at h
    exact (readInside?_lasts h).congr fun w _ => if_neg hdepth

/-! ## All tokens -/

variable {s : Surroundings} {ts : List Token} {budget : Nat}

/-- The surroundings behind some tokens. -/
def Surroundings.afterAll (s : Surroundings) (ts : List Token) : Surroundings :=
  ts.foldl after s

/-- Nothing is read off blanks, and no bracket may be open then. -/
theorem readTokensWithin?_of_blank (h : skipSpread s.verbose u = []) (budget : Nat) :
    readTokensWithin? budget s u = if s.depth = 0 then some [] else none := by
  unfold readTokensWithin?
  rw [h]

/-- A token is read off what is not blank, and the others behind it. -/
theorem readTokensWithin?_of_sign {t : Text} (h : skipSpread s.verbose u = c :: t) :
    readTokensWithin? (budget + 1) s u =
      (s.readToken? (c :: t)).bind fun read =>
        (readTokensWithin? budget (s.after read.1) read.2).map (read.1 :: ·) := by
  rw [readTokensWithin?.eq_def, h]
  dsimp only
  rcases s.readToken? (c :: t) with _ | ⟨token, rest⟩ <;> rfl

/-- Blanks and comments before the first token do not count. -/
theorem readTokensWithin?_congr {t : Text} (h : skipSpread s.verbose u = skipSpread s.verbose t) :
    readTokensWithin? budget s u = readTokensWithin? budget s t := by
  rw [readTokensWithin?.eq_def, readTokensWithin?.eq_def, h]

theorem readTokensWithin?_zero_of_sign {t : Text} (h : skipSpread s.verbose u = c :: t) :
    readTokensWithin? 0 s u = none := by
  rw [readTokensWithin?.eq_def, h]

/-- The first token of a text that is not spread out. -/
theorem readTokensWithin?_plain {s : Surroundings} (hs : s.verbose = false) {c : Char} {t : Text}
    {token : Token} {rest : Text} (h : s.readToken? (c :: t) = some (token, rest)) (budget : Nat) :
    readTokensWithin? (budget + 1) s (c :: t) =
      (readTokensWithin? budget (s.after token) rest).map (token :: ·) := by
  rw [readTokensWithin?_of_sign (by rw [hs, skipSpread_false]), h]
  rfl

/-- A text with a reading is blank or begins with a token and goes on with the other ones. -/
theorem readTokensWithin?_cases (h : readTokensWithin? budget s u = some ts) :
    (skipSpread s.verbose u = [] ∧ s.depth = 0 ∧ ts = []) ∨
      ∃ c t token rest more others, skipSpread s.verbose u = c :: t ∧ budget = more + 1 ∧
        ts = token :: others ∧ s.readToken? (c :: t) = some (token, rest) ∧
        readTokensWithin? more (s.after token) rest = some others := by
  cases hs : skipSpread s.verbose u with
  | nil =>
    rw [readTokensWithin?_of_blank hs] at h
    split at h
    · next hdepth =>
      cases h
      exact .inl ⟨rfl, hdepth, rfl⟩
    · cases h
  | cons c t =>
    cases budget with
    | zero =>
      rw [readTokensWithin?_zero_of_sign hs] at h
      cases h
    | succ more =>
      rw [readTokensWithin?_of_sign hs] at h
      obtain ⟨⟨token, rest⟩, hread, h⟩ := Option.bind_eq_some_iff.1 h
      obtain ⟨others, hrest, rfl⟩ := Option.map_eq_some_iff.1 h
      exact .inr ⟨c, t, token, rest, more, others, rfl, rfl, rfl, hread, hrest⟩

theorem readTokensWithin?_blank_append_tail (hs : skipSpread s.verbose u = [])
    (hdepth : s.depth = 0) (budget : Nat) :
    (∀ w, IsTail w → ∀ k, ∃ j, k ≤ j ∧ readTokensWithin? (budget + k) s (u ++ w) =
        (readTokensWithin? j (s.afterAll []) w).map ([] ++ ·)) ∨
      ∀ w, IsTail w → ∀ k, readTokensWithin? (budget + k) s (u ++ w) = some [] := by
  rcases skipSpread_append_tail s.verbose u with hall | ⟨-, hall⟩
  · refine .inl fun w hw k => ⟨budget + k, Nat.le_add_left k budget, ?_⟩
    have hskip : skipSpread s.verbose (u ++ w) = skipSpread s.verbose w := by
      rw [hall w hw, hs, List.nil_append, skipSpread_tail s.verbose hw]
    rw [readTokensWithin?_congr hskip]
    show _ = (readTokensWithin? (budget + k) s w).map ([] ++ ·)
    simp
  · refine .inr fun w hw k => ?_
    rw [readTokensWithin?_of_blank (hall w hw), if_pos hdepth]

/-- The tokens of a text are also the first tokens of the text with a tail, and those of the tail
follow; or else a comment that is open at the end of the text takes the tail. -/
theorem readTokensWithin?_append_tail (h : readTokensWithin? budget s u = some ts) :
    (∀ w, IsTail w → ∀ k, ∃ j, k ≤ j ∧ readTokensWithin? (budget + k) s (u ++ w) =
        (readTokensWithin? j (s.afterAll ts) w).map (ts ++ ·)) ∨
      ∀ w, IsTail w → ∀ k, readTokensWithin? (budget + k) s (u ++ w) = some ts := by
  -- on the tokens: a comment can only be open behind the last one
  induction ts generalizing s u budget with
  | nil =>
    rcases readTokensWithin?_cases h with ⟨hs, hdepth, -⟩ | ⟨_, _, _, _, _, _, -, -, hts, -, -⟩
    · exact readTokensWithin?_blank_append_tail hs hdepth budget
    · cases hts
  | cons token ts ih =>
    rcases readTokensWithin?_cases h with
      ⟨-, -, hts⟩ | ⟨c, t, _, rest, more, _, hs, hmore, hts, hread, hrest⟩
    · cases hts
    obtain ⟨rfl, rfl⟩ := List.cons.inj hts
    subst hmore
    have hstep : ∀ w after k, s.readToken? (c :: t ++ w) = some (token, after) →
        readTokensWithin? (more + 1 + k) s (u ++ w) =
          (readTokensWithin? (more + k) (s.after token) after).map (token :: ·) := by
      intro w after k hafter
      have hsign : skipSpread s.verbose (u ++ w) = c :: (t ++ w) := by
        rw [skipSpread_append (by simp [hs]), hs, List.cons_append]
      rw [Nat.add_right_comm, readTokensWithin?_of_sign hsign, ← List.cons_append, hafter]
      rfl
    rcases readToken?_lasts hread with hall | ⟨rfl, hall⟩
    · rcases ih hrest with hfollow | hfollow
      · refine .inl fun w hw k => ?_
        obtain ⟨j, hj, hfollow⟩ := hfollow w hw k
        refine ⟨j, hj, ?_⟩
        rw [hstep w _ k (hall w hw), hfollow, Option.map_map]
        rfl
      · refine .inr fun w hw k => ?_
        rw [hstep w _ k (hall w hw), hfollow w hw k]
        rfl
    · -- the comment behind the token took the tail, so what follows has to be read from nothing
      refine .inr fun w hw k => ?_
      rw [hstep w _ k (hall w hw)]
      rw [readTokensWithin?_of_blank rfl] at hrest ⊢
      rw [hrest]
      rfl

end AnswerKey.Regex
