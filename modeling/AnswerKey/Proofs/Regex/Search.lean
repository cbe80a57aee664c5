import AnswerKey.Regex.Loop
import AnswerKey.Regex.Search

/-!
# The search decides the matching relation

`isMatch` walks through a text with a list of remainders; `MatchesIn` speaks of places in the text.
The two agree (`isMatch_iff`), because a remainder matches exactly what the expression still matches
(`matches_step_iff`).

Repetitions are what is hard about the step.  A repetition is a number of rounds between two bounds
(`matches_repeated_iff`), and a first round that takes a character stands behind any number of
rounds that take none (`rounds_cons_iff`).
-/

namespace AnswerKey.Regex

variable {a b r : Regex} {before after : Option Char} {c : Char} {s t : Text} {n m : Nat}

/-! ## Single steps of the relation -/

@[simp] theorem neighbour_nil : neighbour [] after = after := by
  simp [neighbour]

@[simp] theorem neighbour_cons : neighbour (c :: t) after = some c := by
  simp [neighbour]

@[simp] theorem lastOf_nil : lastOf before [] = before := by
  simp [lastOf]

@[simp] theorem lastOf_cons : lastOf before (c :: t) = lastOf (some c) t := by
  rw [← List.singleton_append, lastOf_append]
  rfl

theorem matches_empty_iff : Matches .empty before t after ↔ t = [] := by
  constructor
  · intro h
    cases h
    rfl
  · intro h
    subst h
    exact .empty

theorem matches_chars_iff {u : CharSet} :
    Matches (.chars u) before t after ↔ ∃ c, t = [c] ∧ u.contains c = true := by
  constructor
  · intro h
    cases h with
    | chars h => exact ⟨_, rfl, h⟩
  · intro h
    obtain ⟨c, rfl, h⟩ := h
    exact .chars h

/-- A set matches one character and no more. -/
theorem matches_chars_cons_iff {u : CharSet} :
    Matches (.chars u) before (c :: t) after ↔ u.contains c = true ∧ t = [] := by
  rw [matches_chars_iff]
  constructor
  · intro h
    obtain ⟨d, he, h⟩ := h
    obtain ⟨rfl, rfl⟩ := List.cons.inj he
    exact ⟨h, rfl⟩
  · intro h
    obtain ⟨h, rfl⟩ := h
    exact ⟨c, rfl, h⟩

theorem matches_assertion_iff {e : Assertion} :
    Matches (.assertion e) before t after ↔ t = [] ∧ e.holds before after = true := by
  constructor
  · intro h
    cases h with
    | assertion h => exact ⟨rfl, h⟩
  · intro h
    obtain ⟨rfl, h⟩ := h
    exact .assertion h

/-- A sequence matches a text that falls into two parts, each next to the other. -/
theorem matches_seq_iff :
    Matches (.seq a b) before t after ↔
      ∃ s u, t = s ++ u ∧ Matches a before s (neighbour u after) ∧
        Matches b (lastOf before s) u after := by
  constructor
  · intro h
    cases h with
    | seq ha hb => exact ⟨_, _, rfl, ha, hb⟩
  · intro h
    obtain ⟨s, u, rfl, ha, hb⟩ := h
    exact .seq ha hb

/-- The first of two expressions matches nothing and leaves a character to the second one, or it
begins with the character. -/
theorem matches_seq_cons_iff :
    Matches (.seq a b) before (c :: t) after ↔
      (Matches a before [] (some c) ∧ Matches b before (c :: t) after) ∨
        ∃ s u, t = s ++ u ∧ Matches a before (c :: s) (neighbour u after) ∧
          Matches b (lastOf (some c) s) u after := by
  rw [matches_seq_iff]
  constructor
  · intro h
    obtain ⟨s, u, he, ha, hb⟩ := h
    cases s with
    | nil =>
      rw [List.nil_append] at he
      subst he
      exact .inl ⟨by simpa using ha, by simpa using hb⟩
    | cons d s =>
      rw [List.cons_append, List.cons.injEq] at he
      obtain ⟨rfl, rfl⟩ := he
      exact .inr ⟨s, u, rfl, ha, by simpa using hb⟩
  · intro h
    rcases h with ⟨ha, hb⟩ | ⟨s, u, rfl, ha, hb⟩
    · exact ⟨[], c :: t, rfl, by simpa using ha, by simpa using hb⟩
    · exact ⟨c :: s, u, rfl, ha, by simpa using hb⟩

theorem matches_alt_iff :
    Matches (.alt a b) before t after ↔ Matches a before t after ∨ Matches b before t after := by
  constructor
  · intro h
    cases h with
    | left h => exact .inl h
    | right h => exact .inr h
  · intro h
    exact h.elim .left .right

/-! ## Rounds -/

/-- The text is `n` rounds of the expression, one after the other. -/
def Rounds (a : Regex) (n : Nat) (before : Option Char) (t : Text) (after : Option Char) : Prop :=
  Matches (repeated a n (some 0)) before t after

theorem rounds_zero_iff : Rounds a 0 before t after ↔ t = [] := by
  constructor
  · intro h
    cases h
    rfl
  · intro h
    subst h
    exact .done

/-- The first round matches a part in front, and the others the rest. -/
theorem rounds_succ_iff :
    Rounds a (n + 1) before t after ↔
      ∃ s u, t = s ++ u ∧ Matches a before s (neighbour u after) ∧
        Rounds a n (lastOf before s) u after := by
  constructor
  · intro h
    cases h with
    | needed first more => exact ⟨_, _, rfl, first, more⟩
  · intro h
    obtain ⟨s, u, rfl, first, more⟩ := h
    exact .needed first more

/-- What a repetition matches is matched by rounds, as many as its bounds allow. -/
theorem exists_rounds_of_matches {least : Nat} {extra : Option Nat}
    (h : Matches (repeated a least extra) before t after) :
    ∃ n, least ≤ n ∧ (∀ e, extra = some e → n ≤ least + e) ∧ Rounds a n before t after := by
  -- each rule of a repetition is one round more, and the bounds go down with it
  generalize hr : repeated a least extra = r at h
  induction h generalizing least extra with
  | done =>
    cases hr
    exact ⟨0, Nat.le_refl 0, fun e _ => Nat.zero_le _, .done⟩
  | needed first more _ ih =>
    cases hr
    obtain ⟨n, hle, hmost, hrounds⟩ := ih rfl
    refine ⟨n + 1, by omega, fun e he => ?_, .needed first hrounds⟩
    have := hmost e he
    omega
  | onceMore first more _ ih =>
    cases hr
    obtain ⟨n, hle, hmost, hrounds⟩ := ih rfl
    refine ⟨n + 1, by omega, ?_, .needed first hrounds⟩
    intro e he
    cases he
    have := hmost _ rfl
    omega
  | goOn first more _ ih =>
    cases hr
    obtain ⟨n, hle, -, hrounds⟩ := ih rfl
    exact ⟨n + 1, by omega, nofun, .needed first hrounds⟩
  | _ => simp at hr

/-- Rounds between the bounds of a repetition are what it matches. -/
theorem Rounds.matches_repeated {least : Nat} {extra : Option Nat} (hle : least ≤ n)
    (hmost : ∀ e, extra = some e → n ≤ least + e) (h : Rounds a n before t after) :
    Matches (repeated a least extra) before t after := by
  -- the bounds decide which rule the first of `n` rounds is
  induction n generalizing least extra before t with
  | zero =>
    obtain rfl : least = 0 := by omega
    rw [rounds_zero_iff] at h
    rw [h]
    exact .done
  | succ n ih =>
    obtain ⟨s, u, rfl, first, more⟩ := rounds_succ_iff.1 h
    match least, extra, hle, hmost with
    | least + 1, extra, hle, hmost =>
      refine .needed first (ih (by omega) (fun e he => ?_) more)
      have := hmost e he
      omega
    | 0, none, _, _ => exact .goOn first (ih (Nat.zero_le n) nofun more)
    | 0, some 0, _, hmost =>
      have := hmost 0 rfl
      omega
    | 0, some (e + 1), _, hmost =>
      refine .onceMore first (ih (Nat.zero_le n) ?_ more)
      intro e' he
      cases he
      have := hmost _ rfl
      omega

/-- A repetition is a number of rounds between its bounds. -/
theorem matches_repeated_iff {least : Nat} {extra : Option Nat} :
    Matches (repeated a least extra) before t after ↔
      ∃ n, least ≤ n ∧ (∀ e, extra = some e → n ≤ least + e) ∧ Rounds a n before t after :=
  ⟨exists_rounds_of_matches, fun ⟨_, hle, hmost, h⟩ => h.matches_repeated hle hmost⟩

/-- Where a round may take nothing there can be more rounds. -/
theorem Rounds.pad (hempty : Matches a before [] (neighbour t after)) (h : n ≤ m)
    (hrounds : Rounds a n before t after) : Rounds a m before t after := by
  induction h with
  | refl => exact hrounds
  | step _ ih => exact rounds_succ_iff.2 ⟨[], t, rfl, hempty, ih⟩

/-- A round begins with a character and ends behind it, and then come `k` rounds. -/
def RoundThen (a : Regex) (k : Nat) (before : Option Char) (c : Char) (t : Text)
    (after : Option Char) : Prop :=
  ∃ s u, t = s ++ u ∧ Matches a before (c :: s) (neighbour u after) ∧
    Rounds a k (lastOf (some c) s) u after

/-- A round that reads a character and so many rounds behind it are one round more. -/
theorem RoundThen.rounds {k : Nat} (h : RoundThen a k before c t after) :
    Rounds a (k + 1) before (c :: t) after := by
  obtain ⟨s, u, rfl, hround, hrest⟩ := h
  refine rounds_succ_iff.2 ⟨c :: s, u, rfl, hround, ?_⟩
  rwa [lastOf_cons]

/-- Of the rounds that take a character there is a first one; those before it take nothing. -/
theorem rounds_cons_iff :
    Rounds a n before (c :: t) after ↔ ∃ k, RoundThen a k before c t after ∧
      (n = k + 1 ∨ k + 1 ≤ n ∧ Matches a before [] (some c)) := by
  constructor
  · intro h
    induction n with
    | zero =>
      rw [rounds_zero_iff] at h
      cases h
    | succ n ih =>
      obtain ⟨s, u, he, first, more⟩ := rounds_succ_iff.1 h
      cases s with
      -- the first round takes nothing, and the character is left to the others
      | nil =>
        rw [List.nil_append] at he
        subst he
        rw [lastOf_nil] at more
        rw [neighbour_cons] at first
        obtain ⟨k, hthen, hk⟩ := ih more
        exact ⟨k, hthen, .inr ⟨by omega, first⟩⟩
      | cons d s =>
        rw [List.cons_append, List.cons.injEq] at he
        obtain ⟨rfl, rfl⟩ := he
        rw [lastOf_cons] at more
        exact ⟨n, ⟨s, u, rfl, first, more⟩, .inl rfl⟩
  · intro h
    obtain ⟨k, hthen, hk⟩ := h
    rcases hk with rfl | ⟨hle, hempty⟩
    · exact hthen.rounds
    · exact hthen.rounds.pad (by rwa [neighbour_cons]) hle

/-! ## The empty text -/

/-- The test for the empty text decides whether the expression matches it there. -/
theorem isEmptyAt_iff : r.isEmptyAt before after = true ↔ Matches r before [] after := by
  induction r with
  | empty => simp [isEmptyAt, matches_empty_iff]
  | chars u => simp [isEmptyAt, matches_chars_iff]
  | assertion e => simp [isEmptyAt, matches_assertion_iff]
  | seq a b iha ihb =>
    rw [isEmptyAt, Bool.and_eq_true, iha, ihb, matches_seq_iff]
    constructor
    · intro h
      obtain ⟨ha, hb⟩ := h
      exact ⟨[], [], rfl, ha, hb⟩
    · intro h
      obtain ⟨s, u, he, ha, hb⟩ := h
      obtain ⟨rfl, rfl⟩ := List.append_eq_nil_iff.1 he.symm
      exact ⟨ha, hb⟩
  | alt a b iha ihb => rw [isEmptyAt, Bool.or_eq_true, iha, ihb, matches_alt_iff]
  | repeated a least extra ih =>
    -- either no round is asked for, or a round that takes nothing is made as often as needed
    rw [isEmptyAt, Bool.or_eq_true, beq_iff_eq, ih, matches_repeated_iff]
    constructor
    · intro h
      rcases h with rfl | hempty
      · exact ⟨0, Nat.le_refl 0, fun e _ => Nat.zero_le _, .done⟩
      · refine ⟨least, Nat.le_refl _, fun e _ => Nat.le_add_right _ _, ?_⟩
        exact (rounds_zero_iff.2 rfl).pad hempty (Nat.zero_le least)
    · intro h
      obtain ⟨n, hle, -, hrounds⟩ := h
      cases n with
      | zero => exact .inl (Nat.le_zero.1 hle)
      | succ n =>
        obtain ⟨s, u, he, first, -⟩ := rounds_succ_iff.1 hrounds
        obtain ⟨rfl, rfl⟩ := List.append_eq_nil_iff.1 he.symm
        exact .inr first

/-! ## One character -/

/-- What is written more briefly matches the same. -/
theorem matches_followedBy_iff :
    Matches (followedBy r b) before t after ↔ Matches (.seq r b) before t after := by
  fun_cases followedBy r b with
  | case1 =>
    rw [matches_seq_iff]
    constructor
    · intro h
      exact ⟨[], t, rfl, .empty, h⟩
    · intro h
      obtain ⟨s, u, rfl, hs, h⟩ := h
      rw [matches_empty_iff] at hs
      subst hs
      exact h
  | case2 =>
    rw [matches_seq_iff]
    constructor
    · intro h
      exact ⟨[], t, rfl, .done, h⟩
    · intro h
      obtain ⟨s, u, rfl, hs, h⟩ := h
      obtain rfl : s = [] := rounds_zero_iff.1 hs
      exact h
  | case3 => exact Iff.rfl

/-- What a rest followed by an expression matches is split between the two. -/
theorem exists_matches_followedBy_iff {rests : List Regex} :
    (∃ r ∈ rests.map fun rest => followedBy rest b, Matches r before t after) ↔
      ∃ s u, t = s ++ u ∧ (∃ r ∈ rests, Matches r before s (neighbour u after)) ∧
        Matches b (lastOf before s) u after := by
  constructor
  · intro h
    obtain ⟨_, hmem, h⟩ := h
    obtain ⟨rest, hrest, rfl⟩ := List.mem_map.1 hmem
    obtain ⟨s, u, rfl, hs, hu⟩ := matches_seq_iff.1 (matches_followedBy_iff.1 h)
    exact ⟨s, u, rfl, ⟨rest, hrest, hs⟩, hu⟩
  · intro h
    obtain ⟨s, u, rfl, ⟨rest, hrest, hs⟩, hu⟩ := h
    exact ⟨_, List.mem_map_of_mem hrest, matches_followedBy_iff.2 (.seq hs hu)⟩

/-- A repetition goes on with a character if a round does, and rounds enough but not too many
follow; where a round may take nothing, no round is lacking. -/
theorem matches_repeated_cons_iff {least : Nat} {extra : Option Nat} :
    Matches (repeated a least extra) before (c :: t) after ↔
      ∃ k, RoundThen a k before c t after ∧ (∀ e, extra = some e → k + 1 ≤ least + e) ∧
        (least ≤ k + 1 ∨ a.isEmptyAt before (some c) = true) := by
  rw [matches_repeated_iff]
  constructor
  · intro h
    obtain ⟨n, hle, hmost, h⟩ := h
    obtain ⟨k, hthen, hn⟩ := rounds_cons_iff.1 h
    refine ⟨k, hthen, fun e he => ?_, ?_⟩
    · have := hmost e he
      omega
    · rcases hn with rfl | ⟨-, hempty⟩
      · exact .inl hle
      · exact .inr (isEmptyAt_iff.2 hempty)
  · intro h
    obtain ⟨k, hthen, hmost, hn⟩ := h
    rcases hn with hle | hempty
    · exact ⟨k + 1, hle, hmost, hthen.rounds⟩
    · -- rounds that are lacking are spent before the character
      refine ⟨max (k + 1) least, Nat.le_max_right _ _, fun e he => ?_, ?_⟩
      · have := hmost e he
        omega
      · exact rounds_cons_iff.2 ⟨k, hthen, .inr ⟨Nat.le_max_left _ _, isEmptyAt_iff.1 hempty⟩⟩

section

variable {rests : List Regex} {least : Nat} {extra : Option Nat}

/-- Together some expressions match what another one has left behind a first character. -/
def AreRemainders (a : Regex) (before : Option Char) (c : Char) (rests : List Regex) : Prop :=
  ∀ s after, (∃ r ∈ rests, Matches r (some c) s after) ↔ Matches a before (c :: s) after

/-- The remainders of the first round, followed by the rounds that are left. -/
theorem exists_matches_rounds_iff (hrests : AreRemainders a before c rests) :
    (∃ r ∈ rests.map fun rest => followedBy rest (repeated a least extra),
        Matches r (some c) t after) ↔
      ∃ k, RoundThen a k before c t after ∧ least ≤ k ∧ ∀ e, extra = some e → k ≤ least + e := by
  rw [exists_matches_followedBy_iff]
  constructor
  · intro h
    obtain ⟨s, u, rfl, hs, hu⟩ := h
    obtain ⟨k, hle, hmost, hrounds⟩ := matches_repeated_iff.1 hu
    exact ⟨k, ⟨s, u, rfl, (hrests _ _).1 hs, hrounds⟩, hle, hmost⟩
  · intro h
    obtain ⟨k, ⟨s, u, rfl, hs, hrounds⟩, hle, hmost⟩ := h
    exact ⟨s, u, rfl, (hrests _ _).2 hs, matches_repeated_iff.2 ⟨k, hle, hmost, hrounds⟩⟩

/-- Where a round may take nothing, those still needed can be had for nothing: they go to the extra
ones. -/
theorem matches_needed_of_isEmptyAt (h : a.isEmptyAt before (some c) = true)
    (hrests : AreRemainders a before c rests) :
    (∃ r ∈ rests.map fun rest => followedBy rest (repeated a 0 (extra.map (· + least))),
        Matches r (some c) t after) ↔
      Matches (repeated a (least + 1) extra) before (c :: t) after := by
  rw [matches_repeated_cons_iff, exists_matches_rounds_iff hrests]
  refine exists_congr fun k => and_congr_right fun _ => ?_
  simp only [h, or_true, and_true, Nat.zero_le, true_and]
  cases extra with
  | none => simp
  | some e =>
    simp only [Option.map_some, Option.some.injEq, forall_eq']
    omega

/-- Where each round takes something, one fewer is needed after a round. -/
theorem matches_needed_of_not_isEmptyAt (h : ¬ a.isEmptyAt before (some c) = true)
    (hrests : AreRemainders a before c rests) :
    (∃ r ∈ rests.map fun rest => followedBy rest (repeated a least extra),
        Matches r (some c) t after) ↔
      Matches (repeated a (least + 1) extra) before (c :: t) after := by
  rw [matches_repeated_cons_iff, exists_matches_rounds_iff hrests]
  refine exists_congr fun k => and_congr_right fun _ => ?_
  constructor
  · intro hbounds
    obtain ⟨hle, hmost⟩ := hbounds
    exact ⟨fun e he => by have := hmost e he; omega, .inl (by omega)⟩
  · intro hbounds
    obtain ⟨hmost, hle⟩ := hbounds
    have hleast : least + 1 ≤ k + 1 := hle.resolve_right h
    exact ⟨by omega, fun e he => by have := hmost e he; omega⟩

/-- What is left of a repetition matches the rest of what it matches, if the like holds of its
rounds. -/
theorem matches_step_repeated_iff (hrests : AreRemainders a before c (a.step before c)) :
    (∃ rest ∈ (repeated a least extra).step before c, Matches rest (some c) t after) ↔
      Matches (repeated a least extra) before (c :: t) after := by
  match least, extra with
  | least + 1, extra =>
    by_cases h : a.isEmptyAt before (some c) = true
    · simp only [step, h, if_true]
      exact matches_needed_of_isEmptyAt h hrests
    · simp only [step, h, Bool.false_eq_true, if_false]
      exact matches_needed_of_not_isEmptyAt h hrests
  | 0, none =>
    rw [matches_repeated_cons_iff]
    simp only [step]
    rw [exists_matches_rounds_iff hrests]
    simp
  | 0, some (e + 1) =>
    rw [matches_repeated_cons_iff]
    simp only [step]
    rw [exists_matches_rounds_iff hrests]
    simp
  | 0, some 0 => simp [step, matches_repeated_cons_iff]

end

/-- What is left of an expression matches the rest of what the expression matches. -/
theorem matches_step_iff :
    (∃ rest ∈ r.step before c, Matches rest (some c) t after) ↔
      Matches r before (c :: t) after := by
  induction r generalizing t after with
  | empty => simp [step, matches_empty_iff]
  | chars u =>
    rw [step, matches_chars_cons_iff]
    by_cases h : u.contains c = true
    · simp [h, matches_empty_iff]
    · simp [h]
  | assertion e => simp [step, matches_assertion_iff]
  | seq a b iha ihb =>
    -- the first part takes the character, and what is left of it stands before the second
    have hfirst : (∃ r ∈ (a.step before c).map fun rest => followedBy rest b,
        Matches r (some c) t after) ↔
        ∃ s u, t = s ++ u ∧ Matches a before (c :: s) (neighbour u after) ∧
          Matches b (lastOf (some c) s) u after := by
      rw [exists_matches_followedBy_iff]
      simp only [iha]
    rw [matches_seq_cons_iff, ← hfirst, ← isEmptyAt_iff, step]
    -- or the first part is empty, and the second takes the character
    by_cases h : a.isEmptyAt before (some c) = true
    · simp only [h, if_true, true_and, List.mem_append, or_and_right, exists_or, ihb]
      exact or_comm
    · simp [h]
  | alt a b iha ihb =>
    rw [step, matches_alt_iff, ← iha, ← ihb]
    simp only [List.mem_append, or_and_right, exists_or]
  | repeated a least extra ih => exact matches_step_repeated_iff fun _ _ => ih

/-! ## The whole text -/

/-- The expression matches from the front of a text. -/
def MatchesFront (r : Regex) (before : Option Char) (t : Text) : Prop :=
  ∃ u v, t = u ++ v ∧ Matches r before u (neighbour v none)

/-- At the end of a text only the empty text is left to be matched. -/
theorem matchesFront_nil_iff : MatchesFront r before [] ↔ r.isEmptyAt before none = true := by
  rw [isEmptyAt_iff]
  constructor
  · intro h
    obtain ⟨u, v, he, h⟩ := h
    obtain ⟨rfl, rfl⟩ := List.append_eq_nil_iff.1 he.symm
    exact h
  · intro h
    exact ⟨[], [], rfl, h⟩

/-- A match in front is empty, or goes on behind the next character with what is left of the
expression. -/
theorem matchesFront_cons_iff :
    MatchesFront r before (c :: t) ↔
      r.isEmptyAt before (some c) = true ∨
        ∃ rest ∈ r.step before c, MatchesFront rest (some c) t := by
  rw [isEmptyAt_iff]
  constructor
  · intro h
    obtain ⟨u, v, he, h⟩ := h
    cases u with
    | nil =>
      rw [List.nil_append] at he
      subst he
      exact .inl h
    | cons d u =>
      rw [List.cons_append, List.cons.injEq] at he
      obtain ⟨rfl, rfl⟩ := he
      obtain ⟨rest, hmem, hrest⟩ := matches_step_iff.2 h
      exact .inr ⟨rest, hmem, u, v, rfl, hrest⟩
  · intro h
    rcases h with h | ⟨rest, hmem, u, v, rfl, hrest⟩
    · exact ⟨[], c :: t, rfl, h⟩
    · exact ⟨c :: u, v, rfl, matches_step_iff.1 ⟨rest, hmem, hrest⟩⟩

/-- Expressions that are left out when pruning are matched by others. -/
theorem exists_prune_matchesFront_iff {rs : List Regex} :
    (∃ r ∈ prune rs, MatchesFront r before t) ↔ ∃ r ∈ rs, MatchesFront r before t := by
  constructor
  · intro h
    obtain ⟨r, hr, h⟩ := h
    exact ⟨r, mem_of_mem_prune hr, h⟩
  · intro h
    obtain ⟨r, hr, u, v, rfl, h⟩ := h
    obtain ⟨r', hr', h'⟩ := matches_prune.2 ⟨r, hr, h⟩
    exact ⟨r', hr', u, v, rfl, h'⟩

/-- The search succeeds if a match goes on from before the text or one begins somewhere in it. -/
theorem searchFrom_iff {pending : List Regex} :
    searchFrom r before pending t = true ↔
      (∃ p ∈ pending, MatchesFront p before t) ∨
        ∃ s w, t = s ++ w ∧ MatchesFront r (lastOf before s) w := by
  induction t generalizing before pending with
  | nil =>
    rw [searchFrom, List.any_cons, Bool.or_eq_true, List.any_eq_true]
    simp only [← matchesFront_nil_iff, List.nil_eq_append_iff]
    constructor
    · intro h
      rcases h with h | h
      · exact .inr ⟨[], [], ⟨rfl, rfl⟩, h⟩
      · exact .inl h
    · intro h
      rcases h with h | ⟨_, _, ⟨rfl, rfl⟩, h⟩
      · exact .inr h
      · exact .inl h
  | cons c t ih =>
    -- a match that begins here is one more that is pending
    have hhere : searchFrom r before pending (c :: t) = true ↔
        (∃ p ∈ r :: pending, MatchesFront p before (c :: t)) ∨
          ∃ s w, t = s ++ w ∧ MatchesFront r (lastOf (some c) s) w := by
      rw [searchFrom, Bool.or_eq_true, ih, exists_prune_matchesFront_iff, List.any_eq_true, ← or_assoc]
      simp only [matchesFront_cons_iff, List.mem_flatMap, and_or_left, exists_or]
      refine or_congr_left (or_congr_right ?_)
      constructor
      · intro h
        obtain ⟨rest, ⟨p, hp, hrest⟩, h⟩ := h
        exact ⟨p, hp, rest, hrest, h⟩
      · intro h
        obtain ⟨p, hp, rest, hrest, h⟩ := h
        exact ⟨rest, ⟨p, hp, hrest⟩, h⟩
    rw [hhere]
    constructor
    · intro h
      rcases h with ⟨p, hp, h⟩ | ⟨s, w, rfl, h⟩
      · rcases List.mem_cons.1 hp with rfl | hp
        · exact .inr ⟨[], c :: t, rfl, h⟩
        · exact .inl ⟨p, hp, h⟩
      · exact .inr ⟨c :: s, w, rfl, by rwa [lastOf_cons]⟩
    · intro h
      rcases h with ⟨p, hp, h⟩ | ⟨s, w, he, h⟩
      · exact .inl ⟨p, List.mem_cons_of_mem _ hp, h⟩
      · cases s with
        | nil =>
          rw [List.nil_append] at he
          subst he
          exact .inl ⟨r, List.mem_cons_self, h⟩
        | cons d s =>
          rw [List.cons_append, List.cons.injEq] at he
          obtain ⟨rfl, rfl⟩ := he
          exact .inr ⟨s, w, rfl, by rwa [lastOf_cons] at h⟩

/-- The search finds a match if there is one. -/
theorem isMatch_iff : r.isMatch t = true ↔ MatchesIn r t := by
  rw [isMatch, searchFrom_iff]
  constructor
  · intro h
    rcases h with ⟨p, hp, -⟩ | ⟨s, w, rfl, u, v, rfl, h⟩
    · cases hp
    · exact ⟨s, u, v, (List.append_assoc s u v).symm, h⟩
  · intro h
    obtain ⟨s, u, v, rfl, h⟩ := h
    exact .inr ⟨s, u ++ v, List.append_assoc s u v, u, v, rfl, h⟩

end AnswerKey.Regex
