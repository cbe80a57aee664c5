import AnswerKey.Proofs.Regex.Tail
import Mathlib.Data.List.TakeWhile

/-!
# Tokens of a text that changes behind them

A token stays the same when what follows it changes, as long as it goes on in the same way up to a
place where a sign that has no part in any token gives way to an opening parenthesis.  This is for
expressions that are not spread out.
-/

namespace AnswerKey.Regex

variable {α β : Type} {t t' u v r r' rest : Text} {p : Char → Bool} {x : α}

/-- The signs that an opening parenthesis may stand in for. -/
def replaceable : List Char :=
  [' ', ';', '\\', '<', '>']

/-- A text goes on like another one, to the end or up to a sign with a parenthesis in its place. -/
inductive Replaced : Text → Text → Prop where
  | nil : Replaced [] []
  | cons {c : Char} {t t' : Text} : Replaced t t' → Replaced (c :: t) (c :: t')
  | sign {c : Char} {t t' : Text} : c ∈ replaceable → Replaced (c :: t) ('(' :: t')

namespace Replaced

/-- A text that comes before the change can be longer. -/
theorem append (h : Replaced t t') (u : Text) : Replaced (u ++ t) (u ++ t') := by
  induction u with
  | nil => exact h
  | cons c u ih => exact .cons ih

/-- A sign that is neither replaced nor put in stands at the start of both texts or of none. -/
theorem cons_iff {c : Char} (h : Replaced t t') (hc : c ∉ '(' :: replaceable) :
    (∃ s, t = c :: s) ↔ ∃ s', t' = c :: s' := by
  rw [List.mem_cons, not_or] at hc
  cases h with
  | nil => exact Iff.rfl
  | cons h => simp
  | sign hmem =>
    constructor
    · intro hs
      obtain ⟨s, hs⟩ := hs
      cases hs
      exact (hc.2 hmem).elim
    · intro hs
      obtain ⟨s, hs⟩ := hs
      cases hs
      exact (hc.1 rfl).elim

/-- A sign that is neither replaced nor put in begins both texts or none. -/
theorem head?_iff {c : Char} (h : Replaced t t') (hc : c ∉ '(' :: replaceable) :
    t.head? = some c ↔ t'.head? = some c := by
  rw [List.head?_eq_some_iff, List.head?_eq_some_iff]
  exact h.cons_iff hc

/-- What is in front of the change is the same in both texts. -/
theorem of_cons {c : Char} (h : Replaced t (c :: t')) (hc : c ≠ '(') :
    ∃ s, t = c :: s ∧ Replaced s t' := by
  cases h with
  | cons h => exact ⟨_, rfl, h⟩
  | sign => exact (hc rfl).elim

/-- A run that has ended does not go on behind the change. -/
theorem head_not (h : Replaced t t') (hp : p '(' = false) (ht : ∀ c ∈ t.head?, p c = false) :
    ∀ c ∈ t'.head?, p c = false := by
  cases h with
  | nil => exact ht
  | cons => exact ht
  | sign =>
    intro c hc
    cases hc
    exact hp

end Replaced

/-- What has been spanned is a run that does not go on. -/
theorem spanSpread_eq {run : Text} (h : spanSpread false false p t = (run, r)) :
    t = run ++ r ∧ (∀ c ∈ run, p c = true) ∧ ∀ c ∈ r.head?, p c = false := by
  induction t generalizing run with
  | nil =>
    cases h
    exact ⟨rfl, List.forall_mem_nil _, fun c hc => nomatch hc⟩
  | cons c t ih =>
    by_cases hc : p c = true
    · simp only [spanSpread, hc, Bool.false_eq_true, Bool.false_and, if_false, if_true] at h
      obtain ⟨rfl, rfl⟩ := Prod.mk.inj h
      obtain ⟨ht, hrun, hr⟩ := ih rfl
      exact ⟨congrArg (c :: ·) ht, List.forall_mem_cons.2 ⟨hc, hrun⟩, hr⟩
    · simp only [spanSpread, hc, Bool.false_eq_true, Bool.false_and, if_false] at h
      obtain ⟨rfl, rfl⟩ := Prod.mk.inj h
      refine ⟨rfl, List.forall_mem_nil _, fun d hd => ?_⟩
      cases hd
      exact Bool.eq_false_iff.2 hc

/-- A run is spanned if what follows it does not belong to it. -/
theorem spanSpread_run {run : Text} (hrun : ∀ c ∈ run, p c = true)
    (hr : ∀ c ∈ r.head?, p c = false) : spanSpread false false p (run ++ r) = (run, r) := by
  induction run with
  | nil =>
    cases r with
    | nil => rfl
    | cons c r =>
      have hc : p c = false := hr c rfl
      simp [spanSpread, hc]
  | cons c run ih =>
    obtain ⟨hc, hrun⟩ := List.forall_mem_cons.1 hrun
    simp [spanSpread, hc, ih hrun]

/-- What is left behind a run does not begin like the run. -/
theorem head_dropWhile (t : Text) : ∀ c ∈ (t.dropWhile p).head?, p c = false := by
  intro c hc
  have h := List.head?_dropWhile_not p t
  rw [Option.mem_def.1 hc] at h
  simpa using h

/-! ## Readers -/

/-- What a reader takes off the front of a text it takes off whatever that goes on like. -/
def Keeps (f : Text → Option (α × Text)) (t : Text) (x : α) (r : Text) : Prop :=
  ∃ u, t = u ++ r ∧ ∀ r', Replaced r r' → f (u ++ r') = some (x, r')

namespace Keeps

variable {f : Text → Option (α × Text)} {g : Text → Option (β × Text)} {y : β}

/-- Nothing is taken off. -/
theorem nothing (h : ∀ r', Replaced r r' → f r' = some (x, r')) : Keeps f r x r :=
  ⟨[], rfl, h⟩

/-- Signs are taken off and then what another reader takes off. -/
theorem after (h : Keeps g t' y r) (v : Text) (ht : t = v ++ t')
    (hfg : ∀ s r', Replaced t' s → g s = some (y, r') → f (v ++ s) = some (x, r')) :
    Keeps f t x r := by
  obtain ⟨u, rfl, hu⟩ := h
  refine ⟨v ++ u, by rw [ht, List.append_assoc], fun r' hr' => ?_⟩
  rw [List.append_assoc]
  exact hfg (u ++ r') r' (hr'.append u) (hu r' hr')

/-- One sign is taken off, and then what another reader takes off. -/
theorem cons (h : Keeps g t y r) (c : Char)
    (hfg : ∀ s r', Replaced t s → g s = some (y, r') → f (c :: s) = some (x, r')) :
    Keeps f (c :: t) x r :=
  h.after [c] rfl hfg

/-- A reader keeps what another one keeps that comes to the same. -/
theorem congr (h : Keeps g t y r)
    (hfg : ∀ s r', Replaced t s → g s = some (y, r') → f s = some (x, r')) : Keeps f t x r :=
  h.after [] rfl hfg

/-- A sign is taken off and nothing else. -/
theorem sign (c : Char) (h : ∀ s, Replaced r s → f (c :: s) = some (x, s)) : Keeps f (c :: r) x r :=
  ⟨[c], rfl, h⟩

end Keeps

/-! ## Escapes -/

variable {count : Nat} {i : Item} {token : Token}

/-- A reader of digits looks at no more than the digits that it has counted. -/
theorem readHexDigits?_keeps {digits : Text} (h : readHexDigits? false count t = some (digits, r)) :
    Keeps (readHexDigits? false count) t digits r := by
  induction count generalizing t digits with
  | zero =>
    cases h
    exact .nothing fun _ _ => rfl
  | succ count ih =>
    rw [readHexDigits?, skipSpread_false] at h
    cases t with
    | nil => cases h
    | cons c t =>
      simp only at h
      split at h
      · next hc =>
        obtain ⟨⟨digits', r'⟩, hread, he⟩ := Option.map_eq_some_iff.1 h
        cases he
        refine (ih hread).cons c fun s r' _ hs => ?_
        rw [readHexDigits?, skipSpread_false]
        simp only
        rw [if_pos hc, hs]
        rfl
      · cases h

/-- A character in hexadecimal is read up to its last digit or brace. -/
theorem readHex?_keeps (h : readHex? false (count + 1) t = some (i, r)) :
    Keeps (readHex? false (count + 1)) t i r := by
  unfold readHex? at h
  rw [skipSpread_false] at h
  split at h
  -- digits in braces, up to the brace that closes them
  · next rest =>
    split at h
    · next digits rest' hspan =>
      split at h
      · cases h
      · next hdigits =>
        obtain ⟨c, hc, he⟩ := Option.map_eq_some_iff.1 h
        cases he
        obtain ⟨rfl, hrun, hend⟩ := spanSpread_eq hspan
        refine ⟨'{' :: (digits ++ ['}']), by simp, fun r' _ => ?_⟩
        have hspan' := spanSpread_run (r := '}' :: r') hrun hend
        unfold readHex?
        rw [skipSpread_false, List.cons_append, List.append_assoc, List.singleton_append]
        simp only
        rw [hspan']
        simp only
        rw [if_neg hdigits, hc]
        rfl
    · cases h
  -- digits without braces: what is put in begins with no brace either
  · next hbrace =>
    split at h
    · cases h
    · next digits rest hread =>
      obtain ⟨c, hc, he⟩ := Option.map_eq_some_iff.1 h
      cases he
      refine (readHexDigits?_keeps hread).congr fun s r' hs hs' => ?_
      have hbrace' : ∀ s', s ≠ '{' :: s' := by
        intro s' he
        obtain ⟨s'', he⟩ := (hs.cons_iff (by decide)).2 ⟨s', he⟩
        exact hbrace s'' he
      unfold readHex?
      rw [skipSpread_false]
      split
      · next he => exact (hbrace' _ rfl).elim
      · rw [hs']
        simp only
        rw [hc]
        rfl

/-- A class of characters is read up to the end of its name. -/
theorem readProperty?_keeps {negated : Bool} (h : readProperty? false negated t = some (i, r)) :
    Keeps (readProperty? false negated) t i r := by
  unfold readProperty? at h
  rw [skipSpread_false] at h
  split at h
  · cases h
  -- a name in braces
  · next rest =>
    split at h
    · next name rest' hspan =>
      obtain ⟨j, hj, he⟩ := Option.map_eq_some_iff.1 h
      cases he
      obtain ⟨rfl, hrun, hend⟩ := spanSpread_eq hspan
      refine ⟨'{' :: (name ++ ['}']), by simp, fun r' _ => ?_⟩
      have hspan' := spanSpread_run (r := '}' :: r') hrun hend
      unfold readProperty?
      rw [skipSpread_false, List.cons_append, List.append_assoc, List.singleton_append]
      simp only
      rw [hspan']
      simp only
      rw [hj]
      rfl
    · cases h
  -- a single letter
  · next c rest hc =>
    obtain ⟨q, hq, he⟩ := Option.map_eq_some_iff.1 h
    cases he
    refine .sign c fun s _ => ?_
    unfold readProperty?
    rw [skipSpread_false]
    split
    · next he => cases he
    · next he => exact (hc (List.cons.inj he).1).elim
    · next he =>
      cases he
      rw [hq]
      rfl

/-- What is put in does not name the edge of a word. -/
theorem readEdge?_keeps {e : WordEdge} (h : readEdge? false t = some (e, r)) :
    Keeps (readEdge? false) t e r := by
  unfold readEdge? at h
  split at h
  · next rest =>
    rw [skipSpread_false] at h
    split at h
    · cases h
    · next c rest =>
      split at h
      · next hc =>
        split at h
        · next name rest' hspan =>
          obtain ⟨e', he', he⟩ := Option.map_eq_some_iff.1 h
          cases he
          obtain ⟨hname, hrun, hend⟩ := spanSpread_eq hspan
          have hspan' := fun s => spanSpread_run (r := '}' :: s) hrun hend
          -- the name has a first letter
          cases name with
          | nil =>
            obtain rfl := (List.cons.inj hname).1
            exact absurd hc (by decide)
          | cons d name =>
            obtain ⟨rfl, rfl⟩ := List.cons.inj hname
            refine ⟨'{' :: c :: (name ++ ['}']), by simp, fun r' _ => ?_⟩
            have hspan'' := hspan' r'
            unfold readEdge?
            simp only [List.cons_append, List.append_assoc, List.nil_append] at hspan'' ⊢
            rw [skipSpread_false]
            simp only
            rw [if_pos hc, hspan'']
            simp only
            rw [he']
            rfl
        · cases h
      · next hc =>
        cases h
        refine .nothing fun r' hr' => ?_
        cases hr' with
        | sign hmem => exact absurd hmem (by decide)
        | cons hr' =>
          unfold readEdge?
          simp only
          rw [skipSpread_false]
          cases hr' with
          | cons => exact if_neg hc
          | sign => rfl
  · next hbrace =>
    cases h
    refine .nothing fun r' hr' => ?_
    unfold readEdge?
    split
    · next s' =>
      obtain ⟨s, rfl⟩ := (hr'.cons_iff (by decide)).2 ⟨s', rfl⟩
      exact (hbrace s rfl).elim
    · rfl

/-- An escape is read up to its last sign. -/
theorem readEscape?_keeps {e : Escape} (h : readEscape? false t = some (e, r)) :
    Keeps (readEscape? false) t e r := by
  revert h
  fun_cases readEscape? false t <;> intro h
  case case1 => cases h
  -- a number in hexadecimal digits, or a property of characters
  case case2 rest | case3 rest | case4 rest =>
    obtain ⟨⟨i, r⟩, hread, he⟩ := Option.map_eq_some_iff.1 h
    cases he
    refine (readHex?_keeps hread).cons _ fun s r' _ hs => ?_
    simp only [readEscape?]
    rw [hs]
    rfl
  case case5 rest | case6 rest =>
    obtain ⟨⟨i, r⟩, hread, he⟩ := Option.map_eq_some_iff.1 h
    cases he
    refine (readProperty?_keeps hread).cons _ fun s r' _ hs => ?_
    simp only [readEscape?]
    rw [hs]
    rfl
  case case21 rest =>
    obtain ⟨⟨edge, r⟩, hread, he⟩ := Option.map_eq_some_iff.1 h
    cases he
    refine (readEdge?_keeps hread).cons _ fun s r' _ hs => ?_
    simp only [readEscape?]
    rw [hs]
    rfl
  -- a sign that stands for itself, or may not
  case case25 c rest _ _ _ _ _ _ _ _ _ _ _ _ _ _ _ _ _ _ _ _ _ _ _ hc =>
    cases h
    refine .sign c fun s _ => ?_
    simp [readEscape?, *]
  case case26 => cases h
  all_goals
    cases h
    exact .sign _ fun s _ => rfl

/-! ## Groups and repetitions -/

/-- Flags are read up to the sign that ends them. -/
theorem readFlags?_keeps {off : Bool} {changes new : FlagChanges} {sign : Char}
    (h : readFlags? off changes t = some (new, sign, r)) :
    ∃ c u, t = c :: (u ++ r) ∧
      ∀ s, readFlags? off changes (c :: (u ++ s)) = some (new, sign, s) := by
  -- on the text: the flags up to the sign that ends them are the same before and after
  induction t generalizing off changes with
  | nil => cases h
  | cons c t ih =>
    rw [readFlags?] at h
    by_cases hsign : c = ':' ∨ c = ')'
    · rw [if_pos hsign] at h
      cases h
      refine ⟨_, [], rfl, fun s => ?_⟩
      rw [readFlags?, if_pos hsign]
      rfl
    rw [if_neg hsign] at h
    by_cases hdash : c = '-'
    · rw [if_pos hdash] at h
      by_cases hoff : off = true ∨ t.head? = some ':' ∨ t.head? = some ')'
      · rw [if_pos hoff] at h
        cases h
      · rw [if_neg hoff] at h
        obtain ⟨d, u, rfl, hu⟩ := ih h
        refine ⟨c, d :: u, rfl, fun s => ?_⟩
        rw [readFlags?, if_neg hsign, if_pos hdash]
        exact (if_neg hoff).trans (hu s)
    · rw [if_neg hdash] at h
      cases hf : Flag.ofChar? c with
      | none =>
        rw [hf] at h
        cases h
      | some f =>
        simp only [hf] at h
        split at h
        · cases h
        · next htwice =>
          obtain ⟨d, u, rfl, hu⟩ := ih h
          refine ⟨c, d :: u, rfl, fun s => ?_⟩
          rw [readFlags?, if_neg hsign, if_neg hdash, hf]
          simp only
          rw [if_neg htwice]
          exact hu s

/-- The name of a group is read up to the sign that ends it. -/
theorem readGroupName?_keeps {name : Text} (h : readGroupName? t = some (name, r)) :
    Keeps readGroupName? t name r := by
  cases t with
  | nil => cases h
  | cons c t =>
    rw [readGroupName?] at h
    split at h
    · next hc =>
      split at h
      · next after hdrop =>
        cases h
        have hrun : ∀ d ∈ t.takeWhile isNamePart, isNamePart d = true :=
          fun d hd => List.mem_takeWhile_imp hd
        refine ⟨c :: (t.takeWhile isNamePart ++ ['>']), ?_, fun r' _ => ?_⟩
        · rw [List.cons_append, List.append_assoc, List.singleton_append, ← hdrop,
            List.takeWhile_append_dropWhile]
        · rw [List.cons_append, List.append_assoc, List.singleton_append, readGroupName?, if_pos hc,
            List.dropWhile_append_of_pos hrun, List.takeWhile_append_of_pos hrun,
            List.dropWhile_cons_of_neg (by decide), List.takeWhile_cons_of_neg (by decide)]
          simp
      · cases h
    · cases h

/-- The letters of flags do not look like the start of a name. -/
theorem readFlags?_head {off : Bool} {changes : FlagChanges} {c : Char} {found}
    (h : readFlags? off changes (c :: t) = some found) : c ≠ 'P' ∧ c ≠ '<' := by
  constructor <;>
  · rintro rfl
    cases h

/-- A group with flags is told by the letter behind the question mark. -/
theorem readGroup?_flags {c : Char} (hc : c ≠ 'P' ∧ c ≠ '<') :
    readGroup? false ('?' :: c :: t) =
      (readFlags? false [] (c :: t)).bind fun found =>
        if found.2.1 = ':' then some (.groupOpen found.1, found.2.2)
        else if found.1 = [] then none
        else some (.flags found.1, found.2.2) := by
  unfold readGroup?
  rw [skipSpread_false]
  split
  · next he => exact (hc.1 (by simp_all)).elim
  · next he => exact (hc.2 (by simp_all)).elim
  · next he =>
    obtain rfl := (List.cons.inj he).2
    cases readFlags? false [] (c :: t) with
    | none => rfl
    | some found => rfl
  · next hno => exact (hno _ rfl).elim

/-- What flags open, or set, is told by the flags and the sign that ends them. -/
theorem readGroup?_flags_keeps {c : Char} (hc : c ≠ 'P' ∧ c ≠ '<')
    (h : readGroup? false ('?' :: c :: t) = some (token, r)) :
    Keeps (readGroup? false) ('?' :: c :: t) token r := by
  rw [readGroup?_flags hc] at h
  obtain ⟨⟨changes, sign, rest⟩, hflags, hfound⟩ := Option.bind_eq_some_iff.1 h
  obtain ⟨d, u, he, hu⟩ := readFlags?_keeps hflags
  obtain ⟨rfl, rfl⟩ := List.cons.inj he
  by_cases hsign : sign = ':'
  -- a colon opens a group under the flags
  · obtain ⟨⟩ := (if_pos hsign).symm.trans hfound
    refine ⟨'?' :: c :: u, rfl, fun r' _ => ?_⟩
    rw [List.cons_append, List.cons_append, readGroup?_flags hc, hu]
    exact if_pos hsign
  -- a parenthesis sets them for what follows
  · replace hfound := (if_neg hsign).symm.trans hfound
    by_cases hnone : changes = []
    · cases (if_pos hnone).symm.trans hfound
    · obtain ⟨⟩ := (if_neg hnone).symm.trans hfound
      refine ⟨'?' :: c :: u, rfl, fun r' _ => ?_⟩
      rw [List.cons_append, List.cons_append, readGroup?_flags hc, hu]
      exact (if_neg hsign).trans (if_neg hnone)

/-- What a parenthesis opens is told by the signs behind it that are read. -/
theorem readGroup?_keeps (h : readGroup? false t = some (token, r)) :
    Keeps (readGroup? false) t token r := by
  have hread := h
  unfold readGroup? at h
  rw [skipSpread_false] at h
  split at h
  · next rest =>
    obtain ⟨⟨name, r⟩, hname, he⟩ := Option.map_eq_some_iff.1 h
    cases he
    -- a name, in one way of writing it and in the other
    refine (readGroupName?_keeps hname).after ['?', 'P', '<'] rfl fun s r' _ hs => ?_
    show (readGroupName? s).map _ = _
    rw [hs]
    rfl
  · next rest =>
    obtain ⟨⟨name, r⟩, hname, he⟩ := Option.map_eq_some_iff.1 h
    cases he
    refine (readGroupName?_keeps hname).after ['?', '<'] rfl fun s r' _ hs => ?_
    show (readGroupName? s).map _ = _
    rw [hs]
    rfl
  · next rest _ _ =>
    split at h
    · cases h
    · next changes sign rest' hflags =>
      obtain ⟨c, u, rfl, -⟩ := readFlags?_keeps hflags
      exact readGroup?_flags_keeps (readFlags?_head hflags) hread
  -- no question mark, and none is put in
  · next _ _ hno =>
    cases h
    refine .nothing fun r' hr' => ?_
    rw [readGroup?_of_no_question, skipSpread_false]
    intro s' he
    rw [skipSpread_false] at he
    obtain ⟨s, hs⟩ := (hr'.cons_iff (by decide)).2 ⟨s', he⟩
    exact hno s hs

/-- That few rounds are preferred is said by a sign that is not replaced. -/
theorem repetition_keeps {least : Nat} {most : Option Nat}
    (h : repetition least most t = (token, r)) :
    Keeps (fun t => some (repetition least most t)) t token r := by
  unfold repetition at h
  split at h
  · cases h
    exact .sign '?' fun _ _ => rfl
  · next hno =>
    cases h
    refine .nothing fun r' hr' => ?_
    unfold repetition
    split
    · next s' =>
      obtain ⟨s, rfl⟩ := (hr'.cons_iff (by decide)).2 ⟨s', rfl⟩
      exact (hno s rfl).elim
    · rfl

/-- A number and the blanks around it are taken off before a sign that is none of them. -/
theorem readRounds?_keeps {n : Nat} {c : Char} (hc : Unicode.isBlank c = false)
    (h : readRounds? false t = some (n, c :: r)) :
    ∃ u, t = u ++ c :: r ∧ ∀ s, readRounds? false (u ++ c :: s) = some (n, c :: s) := by
  unfold readRounds? at h
  simp only [skipSpread_false] at h
  have hstart := head_dropWhile (p := Unicode.isBlank) t
  have ht := List.takeWhile_append_dropWhile (p := Unicode.isBlank) (l := t)
  generalize t.dropWhile Unicode.isBlank = m at h hstart ht
  generalize hspan : spanSpread false false Char.isDigit m = found at h
  obtain ⟨digits, rest⟩ := found
  obtain ⟨rfl, hrun, hend⟩ := spanSpread_eq hspan
  simp only at h
  split at h
  · cases h
  next hdigits =>
  have hrest := List.takeWhile_append_dropWhile (p := Unicode.isBlank) (l := rest)
  rw [(Prod.mk.inj (Option.some.inj h)).2] at hrest
  have hn := (Prod.mk.inj (Option.some.inj h)).1
  have hblank : ∀ d ∈ t.takeWhile Unicode.isBlank, Unicode.isBlank d = true :=
    fun d hd => List.mem_takeWhile_imp hd
  have hblank' : ∀ d ∈ rest.takeWhile Unicode.isBlank, Unicode.isBlank d = true :=
    fun d hd => List.mem_takeWhile_imp hd
  generalize t.takeWhile Unicode.isBlank = before at ht hblank
  generalize rest.takeWhile Unicode.isBlank = behind at hrest hblank'
  subst hrest
  -- blanks, digits and blanks again, and then a sign that is neither
  refine ⟨before ++ (digits ++ behind), by simp [← ht], fun s => ?_⟩
  have hfirst : (before ++ (digits ++ (behind ++ c :: s))).dropWhile Unicode.isBlank =
      digits ++ (behind ++ c :: s) := by
    rw [List.dropWhile_append_of_pos hblank]
    cases digits with
    | nil => exact (hdigits (.inl rfl)).elim
    | cons d digits =>
      have hd : Unicode.isBlank d = false := hstart d rfl
      exact List.dropWhile_cons_of_neg (by simp [hd])
  have hnumber : spanSpread false false Char.isDigit (digits ++ (behind ++ c :: s)) =
      (digits, behind ++ c :: s) := by
    apply spanSpread_run hrun
    cases behind <;> exact hend
  have hlast : (behind ++ c :: s).dropWhile Unicode.isBlank = c :: s := by
    rw [List.dropWhile_append_of_pos hblank', List.dropWhile_cons_of_neg (by simp [hc])]
  unfold readRounds?
  simp only [skipSpread_false, List.append_assoc]
  rw [hfirst, hnumber]
  simp only
  rw [if_neg hdigits, hlast, hn]

/-- A number in braces is both bounds. -/
theorem readRepetition?_exactly {least : Nat} (h : readRounds? false t = some (least, '}' :: r)) :
    readRepetition? false t = some (repetition least (some least) r) := by
  unfold readRepetition?
  rw [h]
  simp only
  rw [skipSpread_false]

/-- A number and a comma in braces leave the upper bound open. -/
theorem readRepetition?_atLeast {least : Nat}
    (h : readRounds? false t = some (least, ',' :: '}' :: r)) :
    readRepetition? false t = some (repetition least none r) := by
  unfold readRepetition?
  rw [h]
  simp only [skipSpread_false]

/-- Two numbers in braces are the two bounds. -/
theorem readRepetition?_between {least most : Nat}
    (h : readRounds? false t = some (least, ',' :: v))
    (hclose : ∀ s, v ≠ '}' :: s) (hmost : readRounds? false v = some (most, '}' :: r))
    (hle : least ≤ most) :
    readRepetition? false t = some (repetition least (some most) r) := by
  unfold readRepetition?
  rw [h]
  simp only
  rw [skipSpread_false]
  split
  · next s => exact (hclose s rfl).elim
  · rw [hmost]
    simp only
    rw [if_pos hle, skipSpread_false]

/-- A repetition in braces is read up to the closing one. -/
theorem readRepetition?_keeps (h : readRepetition? false t = some (token, r)) :
    Keeps (readRepetition? false) t token r := by
  unfold readRepetition? at h
  simp only [skipSpread_false] at h
  split at h
  -- one number is both bounds
  · next least rest hleast =>
    obtain ⟨u, rfl, hu⟩ := readRounds?_keeps (by decide) hleast
    refine (repetition_keeps (Option.some.inj h)).after (u ++ ['}']) (by simp) fun s r' _ hs => ?_
    rw [List.append_assoc]
    exact (readRepetition?_exactly (hu s)).trans hs
  · next least rest hleast =>
    obtain ⟨u, rfl, hu⟩ := readRounds?_keeps (by decide) hleast
    split at h
    -- no upper bound
    · next rest =>
      refine (repetition_keeps (Option.some.inj h)).after (u ++ [',', '}']) (by simp)
        fun s r' _ hs => ?_
      rw [List.append_assoc]
      exact (readRepetition?_atLeast (hu ('}' :: s))).trans hs
    -- an upper bound of its own
    · next hclose =>
      split at h
      · next most rest' hmost =>
        obtain ⟨v, rfl, hv⟩ := readRounds?_keeps (by decide) hmost
        have hclose' : ∀ s s', v ++ '}' :: s ≠ '}' :: s' := by
          intro s s' he
          cases v with
          | nil => exact hclose rest' rfl
          | cons c v =>
            obtain rfl := (List.cons.inj he).1
            exact hclose _ rfl
        split at h
        · next hle =>
          refine (repetition_keeps (Option.some.inj h)).after (u ++ ',' :: (v ++ ['}'])) (by simp)
            fun s r' _ hs => ?_
          simp only [List.append_assoc, List.cons_append, List.nil_append]
          exact (readRepetition?_between (hu _) (hclose' s) (hv s) hle).trans hs
        · cases h
      · cases h
  · cases h

/-! ## Brackets -/

/-- What may stand at the start of a set is no sign that is replaced. -/
theorem readSetStart?_keeps {negated : Bool} (h : readSetStart? false negated t = some (token, r)) :
    Keeps (readSetStart? false negated) t token r := by
  unfold readSetStart? at h
  generalize hspan : spanSpread false false (· == '-') t = found at h
  obtain ⟨dashes, rest⟩ := found
  obtain ⟨rfl, hrun, hend⟩ := spanSpread_eq hspan
  split at h
  · cases h
  -- a bracket that comes first is a member
  · next rest' he =>
    obtain ⟨rfl, rfl⟩ := Prod.mk.inj he
    cases h
    refine .sign ']' fun s _ => ?_
    have hspan' := spanSpread_run (p := (· == '-')) (r := ']' :: s) hrun hend
    rw [List.nil_append] at hspan'
    unfold readSetStart?
    rw [hspan']
    rfl
  -- dashes come first, and no bracket is put in behind them
  · next hne hno he =>
    obtain ⟨rfl, rfl⟩ := Prod.mk.inj he
    cases h
    refine ⟨dashes, rfl, fun r' hr' => ?_⟩
    have hspan' := spanSpread_run (r := r') hrun (hr'.head_not (by decide) hend)
    unfold readSetStart?
    rw [hspan']
    split
    · next he =>
      obtain ⟨rfl, rfl⟩ := Prod.mk.inj he
      cases hr'
      exact (hne rfl).elim
    · next s' he =>
      obtain ⟨rfl, rfl⟩ := Prod.mk.inj he
      obtain ⟨s, rfl⟩ := (hr'.cons_iff (by decide)).2 ⟨s', rfl⟩
      exact (hno s rfl rfl).elim
    · next he =>
      obtain ⟨rfl, rfl⟩ := Prod.mk.inj he
      rfl

/-- Brackets are opened alike before the change. -/
theorem readSetOpen?_keeps (h : readSetOpen? false t = some (token, r)) :
    Keeps (readSetOpen? false) t token r := by
  unfold readSetOpen? at h
  rw [skipSpread_false] at h
  split at h
  · next rest =>
    refine (readSetStart?_keeps h).cons '^' fun s r' _ hs => ?_
    unfold readSetOpen?
    rw [skipSpread_false]
    exact hs
  · next hno =>
    refine (readSetStart?_keeps h).congr fun s r' hs hs' => ?_
    unfold readSetOpen?
    rw [skipSpread_false]
    split
    · next s' =>
      obtain ⟨t, rfl⟩ := (hs.cons_iff (by decide)).2 ⟨s', rfl⟩
      exact (hno t rfl).elim
    · exact hs'

/-- What has been put in is no part of a fixed text without parentheses. -/
theorem Replaced.after?_eq_some {start : Text} (h : Replaced t t') (hstart : '(' ∉ start)
    (hread : Text.after? start t' = some r') :
    ∃ r, Text.after? start t = some r ∧ Replaced r r' := by
  induction start generalizing t t' with
  | nil => exact ⟨t, rfl, Option.some.inj hread ▸ h⟩
  | cons a start ih =>
    rw [List.mem_cons, not_or] at hstart
    cases h with
    | nil => cases hread
    | cons h =>
      rw [Text.after?] at hread ⊢
      split at hread
      · next ha =>
        rw [if_pos ha]
        exact ih h hstart.2 hread
      · cases hread
    | sign =>
      rw [Text.after?, if_neg (Ne.symm hstart.1)] at hread
      cases hread

/-- No parenthesis stands in the name of a class. -/
theorem paren_not_mem_className (k : AsciiClass) : '(' ∉ k.name ++ [':', ']'] := by
  cases k <;> decide

/-- A class that is not named in a text is not named behind the change either. -/
theorem Replaced.className_eq_none {k : AsciiClass} {negated : Bool} (h : Replaced t t')
    (hread : ((Text.after? (k.name ++ [':', ']']) t).map fun rest =>
      (Item.asciiClass k negated, rest)) = none) :
    ((Text.after? (k.name ++ [':', ']']) t').map fun rest =>
      (Item.asciiClass k negated, rest)) = none := by
  rw [Option.map_eq_none_iff] at hread ⊢
  cases hafter : Text.after? (k.name ++ [':', ']']) t' with
  | none => rfl
  | some r' =>
    obtain ⟨r, hr, -⟩ := h.after?_eq_some (paren_not_mem_className k) hafter
    rw [hread] at hr
    cases hr

/-- Where no class is named, none is behind the change. -/
theorem Replaced.readAsciiName?_eq_none {negated : Bool} (h : Replaced t t')
    (hread : readAsciiName? negated t = none) : readAsciiName? negated t' = none := by
  unfold readAsciiName? at hread ⊢
  rw [List.findSome?_eq_none_iff] at hread ⊢
  exact fun k hk => h.className_eq_none (hread k hk)

/-- A bracket that begins no class with a name does not begin one behind the change either. -/
theorem Replaced.readAsciiClass?_eq_none (h : Replaced t t') (hread : readAsciiClass? t = none) :
    readAsciiClass? t' = none := by
  fun_cases readAsciiClass? t'
  · next s' =>
    obtain ⟨s₁, rfl, h₁⟩ := h.of_cons (by decide)
    obtain ⟨s₂, rfl, h₂⟩ := h₁.of_cons (by decide)
    obtain ⟨s, rfl, h₃⟩ := h₂.of_cons (by decide)
    exact h₃.readAsciiName?_eq_none hread
  · next s' hno =>
    obtain ⟨s₁, rfl, h₁⟩ := h.of_cons (by decide)
    obtain ⟨s, rfl, h₂⟩ := h₁.of_cons (by decide)
    refine h₂.readAsciiName?_eq_none ?_
    unfold readAsciiClass? at hread
    split at hread
    · next v he =>
      obtain rfl := (List.cons.inj (List.cons.inj he).2).2
      obtain ⟨s', rfl⟩ := (h₂.cons_iff (by decide)).1 ⟨v, rfl⟩
      exact (hno s' rfl).elim
    · next he =>
      obtain rfl := (List.cons.inj (List.cons.inj he).2).2
      exact hread
    · next hno => exact (hno s rfl).elim
  · rfl

theorem readAsciiName?_keeps {negated : Bool} (h : readAsciiName? negated t = some (i, r)) :
    Keeps (readAsciiName? negated) t i r := by
  obtain ⟨earlier, k, later, hall, hk, hearlier⟩ := List.findSome?_eq_some_iff.1 h
  obtain ⟨rest, hafter, he⟩ := Option.map_eq_some_iff.1 hk
  cases he
  obtain rfl := Text.after?_eq_some.1 hafter
  refine ⟨k.name ++ [':', ']'], rfl, fun r' hr' => ?_⟩
  have hafter' : Text.after? (k.name ++ [':', ']']) (k.name ++ [':', ']'] ++ r') = some r' :=
    Text.after?_eq_some.2 rfl
  refine List.findSome?_eq_some_iff.2 ⟨earlier, k, later, hall, ?_, fun j hj => ?_⟩
  · rw [hafter']
    rfl
  · exact (hr'.append _).className_eq_none (hearlier j hj)

theorem readAsciiClass?_keeps (h : readAsciiClass? t = some (i, r)) :
    Keeps readAsciiClass? t i r := by
  unfold readAsciiClass? at h
  split at h
  · next rest => exact (readAsciiName?_keeps h).after ['[', ':', '^'] rfl fun s r' _ hs => hs
  · next rest hno =>
    refine (readAsciiName?_keeps h).after ['[', ':'] rfl fun s r' hs hs' => ?_
    show readAsciiClass? ('[' :: ':' :: s) = _
    unfold readAsciiClass?
    split
    · next v he =>
      obtain rfl := (List.cons.inj (List.cons.inj he).2).2
      obtain ⟨s', rfl⟩ := (hs.cons_iff (by decide)).2 ⟨v, rfl⟩
      exact (hno s' rfl).elim
    · next he =>
      obtain rfl := (List.cons.inj (List.cons.inj he).2).2
      exact hs'
    · next hne => exact (hne s rfl).elim
  · cases h

/-- A member of a set is read up to its last sign. -/
theorem readMember?_keeps (h : readMember? false t = some (i, r)) :
    Keeps (readMember? false) t i r := by
  unfold readMember? at h
  split at h
  · cases h
  · next rest =>
    split at h
    · next j rest' hread =>
      cases h
      refine (readEscape?_keeps hread).cons '\\' fun s r' _ hs => ?_
      unfold readMember?
      simp only
      rw [hs]
    · cases h
  · next c rest hc =>
    cases h
    refine .sign c fun s _ => ?_
    unfold readMember?
    split
    · next he => cases he
    · next he => exact (hc (List.cons.inj he).1).elim
    · next he =>
      cases he
      rfl

/-- The end of a range is read up to its last sign. -/
theorem readRangeEnd?_keeps {first : Item} (h : readRangeEnd? false first t = some (i, r)) :
    Keeps (readRangeEnd? false first) t i r := by
  unfold readRangeEnd? at h
  rw [skipSpread_false] at h
  split at h
  · cases h
  · next last rest hlast =>
    have hr : rest = r := by
      split at h
      · split at h
        · cases h
          rfl
        · cases h
      · cases h
    subst hr
    refine (readMember?_keeps hlast).congr fun s r' _ hs => ?_
    unfold readRangeEnd?
    rw [skipSpread_false, hs]
    simp only
    split at h
    · split at h
      · next hle =>
        cases h
        rw [if_pos hle]
      · cases h
    · cases h

/-- Whether a dash stands by itself is decided by the sign behind it, which is not replaced if it
does. -/
theorem Replaced.nextSign_iff (h : Replaced t t') :
    (nextSign false t = some ']' ∨ nextSign false t = some '-') ↔
      (nextSign false t' = some ']' ∨ nextSign false t' = some '-') :=
  or_congr (h.head?_iff (by decide)) (h.head?_iff (by decide))

/-- A dash before a closing bracket or another dash is a member by itself. -/
theorem readRange?_alone {first : Item} (h : readMember? false t = some (first, '-' :: r))
    (hnext : nextSign false r = some ']' ∨ nextSign false r = some '-') :
    readRange? false t = some (first, '-' :: r) := by
  unfold readRange?
  rw [h]
  simp only
  rw [skipSpread_false]
  exact if_pos hnext

/-- A dash before anything else makes a range. -/
theorem readRange?_dash {first : Item} (h : readMember? false t = some (first, '-' :: r))
    (hnext : ¬ (nextSign false r = some ']' ∨ nextSign false r = some '-')) :
    readRange? false t = readRangeEnd? false first r := by
  unfold readRange?
  rw [h]
  simp only
  rw [skipSpread_false]
  exact if_neg hnext

/-- A member without a dash behind it is no range. -/
theorem readRange?_plain {first : Item} (h : readMember? false t = some (first, r))
    (hdash : ∀ s, r ≠ '-' :: s) : readRange? false t = some (first, r) := by
  unfold readRange?
  rw [h]
  simp only
  rw [skipSpread_false]
  split
  · next s => exact (hdash s rfl).elim
  · rfl

/-- A range is read up to its last sign. -/
theorem readRange?_keeps (h : readRange? false t = some (i, r)) :
    Keeps (readRange? false) t i r := by
  cases hfirst : readMember? false t with
  | none =>
    unfold readRange? at h
    rw [hfirst] at h
    cases h
  | some found =>
    obtain ⟨first, rest⟩ := found
    by_cases hdash : ∃ s, rest = '-' :: s
    · obtain ⟨after, rfl⟩ := hdash
      obtain ⟨u, rfl, hu⟩ := readMember?_keeps hfirst
      by_cases hnext : nextSign false after = some ']' ∨ nextSign false after = some '-'
      -- the dash is a member itself
      · rw [readRange?_alone hfirst hnext] at h
        cases h
        refine ⟨u, rfl, fun r' hr' => ?_⟩
        have hread := hu r' hr'
        cases hr' with
        | sign hmem => exact absurd hmem (by decide)
        | cons hafter => exact readRange?_alone hread (hafter.nextSign_iff.1 hnext)
      -- the dash stands between two ends
      · rw [readRange?_dash hfirst hnext] at h
        refine (readRangeEnd?_keeps h).after (u ++ ['-']) (by simp) fun s r' hs hs' => ?_
        rw [List.append_assoc, List.singleton_append,
          readRange?_dash (hu _ (.cons hs)) (mt hs.nextSign_iff.2 hnext), hs']
    -- no dash, and none is put in
    · rw [readRange?_plain hfirst fun s hs => hdash ⟨s, hs⟩] at h
      cases h
      obtain ⟨u, rfl, hu⟩ := readMember?_keeps hfirst
      refine ⟨u, rfl, fun r' hr' => readRange?_plain (hu r' hr') fun s' hs' => ?_⟩
      exact hdash ((hr'.cons_iff (by decide)).2 ⟨s', hs'⟩)

/-! ## Tokens -/

/-- The signs inside brackets that are tokens by themselves, or begin one. -/
def BeginsInside (t : Text) : Prop :=
  ∃ start ∈ [['['], [']'], ['&', '&'], ['-', '-'], ['~', '~']], ∃ s, t = start ++ s

/-- What is put in begins no token inside of brackets. -/
theorem Replaced.beginsInside (h : Replaced t t') (hbegins : BeginsInside t') : BeginsInside t := by
  obtain ⟨start, hstart, s', rfl⟩ := hbegins
  have hparen : '(' ∉ start := by
    intro hmem
    simp only [List.mem_cons, List.not_mem_nil, or_false] at hstart
    rcases hstart with rfl | rfl | rfl | rfl | rfl <;> exact absurd hmem (by decide)
  obtain ⟨s, hs, -⟩ := h.after?_eq_some hparen (Text.after?_eq_some.2 rfl)
  exact ⟨start, hstart, s, Text.after?_eq_some.1 hs⟩

/-- What begins no other token inside of brackets is a member. -/
theorem readInside?_item (h : ¬ BeginsInside t) :
    readInside? false t = (readRange? false t).map fun (i, rest) => (.item i, rest) := by
  unfold readInside?
  split
  · exact (h ⟨['['], by simp, _, rfl⟩).elim
  · exact (h ⟨[']'], by simp, _, rfl⟩).elim
  · exact (h ⟨['&', '&'], by simp, _, rfl⟩).elim
  · exact (h ⟨['-', '-'], by simp, _, rfl⟩).elim
  · exact (h ⟨['~', '~'], by simp, _, rfl⟩).elim
  · rfl

theorem readInside?_class (h : readAsciiClass? ('[' :: t) = some (i, r)) :
    readInside? false ('[' :: t) = some (.item i, r) := by
  unfold readInside?
  simp only
  rw [h]

theorem readInside?_open (h : readAsciiClass? ('[' :: t) = none) :
    readInside? false ('[' :: t) = readSetOpen? false t := by
  unfold readInside?
  simp only
  rw [h]

/-- A token inside of brackets is read up to its last sign. -/
theorem readInside?_keeps (h : readInside? false t = some (token, r)) :
    Keeps (readInside? false) t token r := by
  by_cases hbegins : BeginsInside t
  · obtain ⟨start, hstart, s, rfl⟩ := hbegins
    simp only [List.mem_cons, List.not_mem_nil, or_false] at hstart
    rcases hstart with rfl | rfl | rfl | rfl | rfl
    -- a class by its name, or else a bracket inside of the bracket
    · cases hclass : readAsciiClass? ('[' :: s) with
      | none =>
        have hopen : readSetOpen? false s = some (token, r) := readInside?_open hclass ▸ h
        refine (readSetOpen?_keeps hopen).cons '[' fun s' r' hs hs' => ?_
        rw [readInside?_open (hs.cons.readAsciiClass?_eq_none hclass), hs']
      | some found =>
        obtain ⟨i, r⟩ := found
        have hitem : readInside? false ('[' :: s) = some (.item i, r) := readInside?_class hclass
        rw [List.singleton_append, hitem] at h
        cases h
        refine (readAsciiClass?_keeps hclass).congr fun s' r' hs hs' => ?_
        cases hs with
        | cons => exact readInside?_class hs'
        | sign hmem => exact absurd hmem (by decide)
    · cases h
      exact .sign ']' fun _ _ => rfl
    · cases h
      exact ⟨['&', '&'], rfl, fun _ _ => rfl⟩
    · cases h
      exact ⟨['-', '-'], rfl, fun _ _ => rfl⟩
    · cases h
      exact ⟨['~', '~'], rfl, fun _ _ => rfl⟩
  · rw [readInside?_item hbegins] at h
    obtain ⟨⟨i, r⟩, hread, he⟩ := Option.map_eq_some_iff.1 h
    cases he
    refine (readRange?_keeps hread).congr fun s r' hs hs' => ?_
    rw [readInside?_item (mt hs.beginsInside hbegins), hs']
    rfl

/-- A token outside of brackets is read up to its last sign. -/
theorem readOutside?_keeps (h : readOutside? false t = some (token, r)) :
    Keeps (readOutside? false) t token r := by
  revert h
  fun_cases readOutside? false t <;> intro h
  case case1 => cases h
  case case2 rest => exact (readGroup?_keeps h).cons '(' fun s r' _ hs => hs
  case case5 rest => exact (readSetOpen?_keeps h).cons '[' fun s r' _ hs => hs
  case case6 rest | case7 rest | case8 rest =>
    exact (repetition_keeps (Option.some.inj h)).cons _ fun s r' _ hs => hs
  case case9 rest => exact (readRepetition?_keeps h).cons '{' fun s r' _ hs => hs
  case case13 rest =>
    obtain ⟨⟨e, r⟩, hread, he⟩ := Option.map_eq_some_iff.1 h
    cases he
    refine (readEscape?_keeps hread).cons '\\' fun s r' _ hs => ?_
    simp only [readOutside?]
    rw [hs]
    rfl
  -- any other sign stands for itself
  case case14 c rest _ _ _ _ _ _ _ _ _ _ _ _ =>
    cases h
    refine .sign c fun s _ => ?_
    simp [readOutside?, *]
  all_goals
    cases h
    exact .sign _ fun _ _ => rfl

/-- A token stays the same when what follows it changes. -/
theorem readToken?_keeps {s : Surroundings} (hs : s.verbose = false)
    (h : s.readToken? t = some (token, r)) : Keeps s.readToken? t token r := by
  unfold Surroundings.readToken? at h
  have hread : ∀ t, s.readToken? t = if s.depth = 0 then readOutside? false t
      else readInside? false t := by
    intro t
    rw [Surroundings.readToken?, hs]
  rw [hs] at h
  by_cases hdepth : s.depth = 0
  · rw [if_pos hdepth] at h
    refine (readOutside?_keeps h).congr fun s' r' _ hs' => ?_
    rw [hread, if_pos hdepth, hs']
  · rw [if_neg hdepth] at h
    refine (readInside?_keeps h).congr fun s' r' _ hs' => ?_
    rw [hread, if_neg hdepth, hs']

/-! ## A token takes a sign -/

/-- What is left is no longer than the text. -/
theorem Keeps.length_le {f : Text → Option (α × Text)} (h : Keeps f t x r) :
    r.length ≤ t.length := by
  obtain ⟨u, rfl, -⟩ := h
  rw [List.length_append]
  exact Nat.le_add_left _ _

theorem length_of_readMember? (h : readMember? false t = some (i, r)) : r.length < t.length := by
  unfold readMember? at h
  split at h
  · cases h
  · split at h
    · next j rest' hread =>
      cases h
      exact Nat.lt_succ_of_le (readEscape?_keeps hread).length_le
    · cases h
  · cases h
    exact Nat.lt_succ_self _

theorem length_of_readRange? (h : readRange? false t = some (i, r)) : r.length < t.length := by
  unfold readRange? at h
  split at h
  · cases h
  · next first rest hfirst =>
    have hrest := length_of_readMember? hfirst
    rw [skipSpread_false] at h
    split at h
    · next after =>
      simp only at h
      split at h
      · cases h
        exact hrest
      · have hafter := (readRangeEnd?_keeps h).length_le
        rw [List.length_cons] at hrest
        omega
    · cases h
      exact hrest

theorem length_of_readAsciiClass? (h : readAsciiClass? t = some (i, r)) : r.length < t.length := by
  unfold readAsciiClass? at h
  split at h
  · have hle := (readAsciiName?_keeps h).length_le
    simp only [List.length_cons]
    omega
  · have hle := (readAsciiName?_keeps h).length_le
    simp only [List.length_cons]
    omega
  · cases h

theorem length_of_readInside? (h : readInside? false t = some (token, r)) :
    r.length < t.length := by
  unfold readInside? at h
  split at h
  · next rest =>
    split at h
    · next hclass =>
      cases h
      exact length_of_readAsciiClass? hclass
    · exact Nat.lt_succ_of_le (readSetOpen?_keeps h).length_le
  · cases h
    exact Nat.lt_succ_self _
  · cases h
    exact Nat.lt_succ_of_lt (Nat.lt_succ_self _)
  · cases h
    exact Nat.lt_succ_of_lt (Nat.lt_succ_self _)
  · cases h
    exact Nat.lt_succ_of_lt (Nat.lt_succ_self _)
  · obtain ⟨⟨i, r⟩, hread, he⟩ := Option.map_eq_some_iff.1 h
    cases he
    exact length_of_readRange? hread

theorem length_of_readOutside? (h : readOutside? false t = some (token, r)) :
    r.length < t.length := by
  revert h
  fun_cases readOutside? false t <;> intro h
  case case1 => cases h
  case case2 rest => exact Nat.lt_succ_of_le (readGroup?_keeps h).length_le
  case case5 rest => exact Nat.lt_succ_of_le (readSetOpen?_keeps h).length_le
  case case6 rest | case7 rest | case8 rest =>
    exact Nat.lt_succ_of_le (repetition_keeps (Option.some.inj h)).length_le
  case case9 rest => exact Nat.lt_succ_of_le (readRepetition?_keeps h).length_le
  case case13 rest =>
    obtain ⟨⟨e, r⟩, hread, he⟩ := Option.map_eq_some_iff.1 h
    cases he
    exact Nat.lt_succ_of_le (readEscape?_keeps hread).length_le
  all_goals
    cases h
    exact Nat.lt_succ_self _

/-- A token takes a sign at least. -/
theorem length_of_readToken? {s : Surroundings} (hs : s.verbose = false)
    (h : s.readToken? t = some (token, r)) : r.length < t.length := by
  unfold Surroundings.readToken? at h
  rw [hs] at h
  split at h
  · exact length_of_readOutside? h
  · exact length_of_readInside? h

end AnswerKey.Regex
