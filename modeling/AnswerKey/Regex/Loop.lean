import AnswerKey.Regex

/-!
# Rounds of rounds

Rounds without end of something that is itself rounds without end are no more than the
inner ones, as long as neither needs more than one round.  `loop` makes a repetition
with this in mind, and `matches_loop` says that it matches the same texts.
-/

namespace AnswerKey.Regex

/-- A repetition, where rounds without end of rounds without end are as good as the inner ones. -/
def loop (a : Regex) (least : Nat) (extra : Option Nat) : Regex :=
  match a, extra with
  | repeated b n none, none =>
    if n ≤ 1 ∧ least ≤ 1 then repeated b (n * least) none else repeated a least none
  | a, extra => repeated a least extra

/-! ## Neighbours -/

theorem neighbour_append (s t : Text) (after : Option Char) :
    neighbour (s ++ t) after = neighbour s (neighbour t after) := by
  cases s <;> simp [neighbour]

theorem lastOf_append (before : Option Char) (s t : Text) :
    lastOf before (s ++ t) = lastOf (lastOf before s) t := by
  simp [lastOf, List.getLast?_append, Option.or_assoc]

/-! ## Rounds -/

variable {a : Regex} {before after : Option Char} {s t : Text}

/-- Rounds without end can be taken up again. -/
theorem Matches.append (hs : Matches (repeated a 0 none) before s (neighbour t after))
    (ht : Matches (repeated a 0 none) (lastOf before s) t after) :
    Matches (repeated a 0 none) before (s ++ t) after := by
  generalize hr : repeated a 0 none = r at hs
  generalize hb : neighbour t after = next at hs
  induction hs with
  | done => cases hr; simpa [lastOf] using ht
  | goOn first more _ ih =>
    cases hr
    subst hb
    rw [List.append_assoc]
    refine .goOn ?_ (ih (by rwa [← lastOf_append]) rfl rfl)
    rwa [neighbour_append]
  | _ => simp_all

/-- One round is as good as rounds without end that need at most one. -/
theorem Matches.ofOne {n : Nat} (hn : n ≤ 1) (h : Matches a before s after) :
    Matches (repeated a n none) before s after := by
  match n, hn with
  | 0, _ => simpa using Matches.goOn (t := []) h .done
  | 1, _ => simpa using Matches.needed (t := []) h .done

/-- Rounds without end need no first one. -/
theorem Matches.ofNeeded {n : Nat} (hn : n ≤ 1) (h : Matches (repeated a n none) before s after) :
    Matches (repeated a 0 none) before s after := by
  match n, hn, h with
  | 0, _, h => exact h
  | 1, _, .needed first more => exact .goOn first more

/-- Any number of times any number of rounds is any number of rounds. -/
theorem matches_many_many {n : Nat} (hn : n ≤ 1) :
    Matches (repeated (repeated a n none) 0 none) before s after ↔
      Matches (repeated a 0 none) before s after := by
  constructor
  · intro h
    generalize hr : repeated (repeated a n none) 0 none = r at h
    induction h with
    | done => cases hr; exact .done
    | goOn first _ _ ih => cases hr; exact (first.ofNeeded hn).append (ih rfl)
    | _ => simp_all
  · intro h
    generalize hr : repeated a 0 none = r at h
    induction h with
    | done => cases hr; exact .done
    | goOn first _ _ ih => cases hr; exact .goOn (.ofOne hn first) (ih rfl)
    | _ => simp_all

/-- A repetition matches the same texts, however it is made. -/
theorem matches_loop {least : Nat} {extra : Option Nat} :
    Matches (loop a least extra) before s after ↔
      Matches (repeated a least extra) before s after := by
  fun_cases loop a least extra with
  | case1 b n h =>
    obtain ⟨hn, hl⟩ := h
    match least, hl with
    | 0, _ => exact (matches_many_many hn).symm
    | 1, _ =>
      rw [Nat.mul_one]
      constructor
      · intro h
        simpa using Matches.needed (t := []) h .done
      · rintro (_ | _ | _ | _ | _ | _ | _ | @⟨_, _, _, _, s, t, _, first, more⟩)
        have rest := (matches_many_many hn).1 more
        match n, hn, first with
        | 0, _, first => exact first.append rest
        | 1, _, .needed (s := u) (t := v) one others =>
          rw [List.append_assoc]
          refine .needed ?_ (others.append ?_)
          · rwa [neighbour_append]
          · rwa [← lastOf_append]
  | _ => exact Iff.rfl

end AnswerKey.Regex
