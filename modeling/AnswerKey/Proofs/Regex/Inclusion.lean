import AnswerKey.Proofs.Regex.Search
import AnswerKey.Regex.Reader
import Mathlib.Data.List.Forall2

/-!
# Expressions that match more

An expression is within another one if that one matches all it matches, wherever it stands.
Repetitions, runs and choices keep this, and so do folded case and unions for sets.  Complements
turn it around, which is why a set may have to be within the other one instead.
-/

namespace AnswerKey.Regex

/-! ## Sets -/

namespace CharSet

variable {a b c d : CharSet}

/-- All members of a set are members of another one. -/
def Within (a b : CharSet) : Prop :=
  ∀ x, a.contains x = true → b.contains x = true

theorem Within.refl (a : CharSet) : a.Within a :=
  fun _ h => h

theorem Within.trans (h : a.Within b) (h' : b.Within c) : a.Within c :=
  fun x hx => h' x (h x hx)

/-- Unions grow with both of their sets. -/
theorem Within.union (h : a.Within b) (h' : c.Within d) : (a.union c).Within (b.union d) := by
  intro x hx
  rcases Bool.or_eq_true_iff.1 hx with hx | hx
  · exact Bool.or_eq_true_iff.2 (.inl (h x hx))
  · exact Bool.or_eq_true_iff.2 (.inr (h' x hx))

theorem within_union_left (a b : CharSet) : a.Within (a.union b) :=
  fun _ hx => Bool.or_eq_true_iff.2 (.inl hx)

theorem within_union_right (a b : CharSet) : b.Within (a.union b) :=
  fun _ hx => Bool.or_eq_true_iff.2 (.inr hx)

/-- Fewer characters are left out of a smaller set. -/
theorem Within.compl (h : a.Within b) : (compl b).Within (compl a) := by
  intro x hx
  have hb : b.contains x = false := Bool.not_eq_eq_eq_not.1 hx
  cases ha : a.contains x with
  | false => exact Bool.not_eq_eq_eq_not.2 ha
  | true =>
    rw [h x ha] at hb
    cases hb

/-- A larger set has the letters of the smaller one in the other case, too. -/
theorem Within.anyCase (h : a.Within b) : (anyCase a).Within (anyCase b) := by
  intro x hx
  simp only [contains, Bool.or_eq_true, List.any_eq_true] at hx ⊢
  exact hx.imp (h x) fun hd => hd.imp fun d hd => ⟨hd.1, h d hd.2⟩

theorem Within.anyAsciiCase (h : a.Within b) : (anyAsciiCase a).Within (anyAsciiCase b) := by
  intro x hx
  simp only [contains, Bool.or_eq_true] at hx ⊢
  exact hx.imp (Or.imp (h _) (h _)) (h _)

theorem Within.foldCase (h : a.Within b) (f : Flags) : (f.foldCase a).Within (f.foldCase b) := by
  unfold Flags.foldCase
  split
  · split
    · exact h.anyCase
    · exact h.anyAsciiCase
  · exact h

/-- Whatever the flags say of case, no member is lost. -/
theorem within_foldCase (f : Flags) (a : CharSet) : a.Within (f.foldCase a) := by
  intro x hx
  unfold Flags.foldCase
  split
  · split <;> simp [contains, hx]
  · exact hx

/-! ### In either direction -/

/-- A set is within another one, or the other way round. -/
def Directed (up : Bool) (a b : CharSet) : Prop :=
  if up then a.Within b else b.Within a

theorem Directed.refl (up : Bool) (a : CharSet) : Directed up a a := by
  cases up <;> exact Within.refl a

/-- Unions keep the direction. -/
theorem Directed.union {up : Bool} (h : Directed up a b) (h' : Directed up c d) :
    Directed up (a.union c) (b.union d) := by
  cases up with
  | true => exact Within.union h h'
  | false => exact Within.union h h'

/-- Letters in the other case are added to both sides alike. -/
theorem Directed.foldCase {up : Bool} (h : Directed up a b) (f : Flags) :
    Directed up (f.foldCase a) (f.foldCase b) := by
  cases up with
  | true => exact Within.foldCase h f
  | false => exact Within.foldCase h f

/-- The direction turns round with each negation. -/
theorem Directed.negateIf {up : Bool} (negated : Bool) (h : Directed up a b) :
    Directed (negated ^^ up) (a.negateIf negated) (b.negateIf negated) := by
  cases negated with
  | false =>
    rw [Bool.false_xor]
    exact h
  | true =>
    cases up with
    | true => exact Within.compl h
    | false => exact Within.compl h

end CharSet

/-! ## Expressions -/

/-- An expression matches all that another one does. -/
def Within (r s : Regex) : Prop :=
  ∀ before t after, Matches r before t after → Matches s before t after

namespace Within

variable {a b c r s : Regex}

theorem refl (r : Regex) : Within r r :=
  fun _ _ _ h => h

theorem trans (h : Within a b) (h' : Within b c) : Within a c :=
  fun before t after ht => h' before t after (h before t after ht)

/-- One character of a smaller set is one of a larger set. -/
theorem chars {u v : CharSet} (h : u.Within v) : Within (.chars u) (.chars v) := by
  intro before t after ht
  obtain ⟨x, rfl, hx⟩ := matches_chars_iff.1 ht
  exact .chars (h x hx)

/-- Each round that the smaller expression goes the greater one goes as well. -/
theorem repeated (h : Within a b) (least : Nat) (extra : Option Nat) :
    Within (.repeated a least extra) (.repeated b least extra) := by
  intro before t after ht
  generalize hr : Regex.repeated a least extra = r at ht
  induction ht generalizing least extra with
  | done =>
    cases hr
    exact .done
  | needed first _ _ ih =>
    cases hr
    exact .needed (h _ _ _ first) (ih _ _ rfl)
  | onceMore first _ _ ih =>
    cases hr
    exact .onceMore (h _ _ _ first) (ih _ _ rfl)
  | goOn first _ _ ih =>
    cases hr
    exact .goOn (h _ _ _ first) (ih _ _ rfl)
  | _ => cases hr

theorem loop (h : Within a b) (least : Nat) (extra : Option Nat) :
    Within (loop a least extra) (loop b least extra) := by
  intro before t after ht
  exact matches_loop.2 (h.repeated least extra before t after (matches_loop.1 ht))

/-- A text that the smaller expression matches is matched by the greater one. -/
theorem isMatch (h : Within r s) {t : Text} (ht : r.isMatch t = true) : s.isMatch t = true := by
  obtain ⟨u, v, w, he, hv⟩ := isMatch_iff.1 ht
  exact isMatch_iff.2 ⟨u, v, w, he, h _ _ _ hv⟩

end Within

/-! ## Trees -/

namespace Tree

variable {t u : Tree} {ts us : List Tree} {before after : Option Char} {x : Text}

/-- A tree matches all that another one does. -/
def Within (t u : Tree) : Prop :=
  Regex.Within t.regex u.regex

/-- Rounds match more if what goes round does, whichever number of rounds is preferred. -/
theorem Within.repeated (h : t.Within u) (least : Nat) (most : Option Nat) (isLazy isLazy' : Bool) :
    (repeated t least most isLazy).Within (repeated u least most isLazy') :=
  h.loop least (most.map (· - least))

/-- The tree of some items stands for the expressions of the items, one after the other. -/
theorem regex_ofItems (ts : List Tree) : (ofItems ts).regex = sequence ts := by
  match ts with
  | [] => rw [ofItems, regex, sequence]
  | [t] => rw [ofItems, sequence]
  | t :: u :: ts => rw [ofItems, regex] <;> simp

/-- The tree of some alternatives stands for a choice of their expressions. -/
theorem regex_ofAlternatives (h : ts ≠ []) : (ofAlternatives ts).regex = choice ts := by
  match ts with
  | [] => exact (h rfl).elim
  | [t] => rw [ofAlternatives, choice]
  | t :: u :: ts => rw [ofAlternatives, regex] <;> simp

/-- The first item of a sequence comes before the others. -/
theorem matches_sequence_cons : Matches (sequence (t :: ts)) before x after ↔
    Matches (.seq t.regex (sequence ts)) before x after := by
  cases ts with
  | nil =>
    rw [sequence, sequence, matches_seq_iff]
    constructor
    · intro h
      exact ⟨x, [], (List.append_nil x).symm, by rwa [neighbour_nil], .empty⟩
    · intro h
      obtain ⟨u, v, rfl, hu, hv⟩ := h
      cases matches_empty_iff.1 hv
      rwa [neighbour_nil, ← List.append_nil u] at hu
  | cons u ts => rw [sequence]

/-- A text of two sequences is divided somewhere between them. -/
theorem matches_sequence_append : Matches (sequence (ts ++ us)) before x after ↔
    ∃ u v, x = u ++ v ∧ Matches (sequence ts) before u (neighbour v after) ∧
      Matches (sequence us) (lastOf before u) v after := by
  -- on the first sequence: its first part takes what stands in front
  induction ts generalizing before x with
  | nil =>
    rw [List.nil_append, sequence]
    constructor
    · intro h
      exact ⟨[], x, rfl, .empty, h⟩
    · intro h
      obtain ⟨u, v, rfl, hu, hv⟩ := h
      cases matches_empty_iff.1 hu
      exact hv
  | cons t ts ih =>
    rw [List.cons_append, matches_sequence_cons, matches_seq_iff]
    constructor
    · intro h
      obtain ⟨u, v, rfl, hu, hv⟩ := h
      obtain ⟨w, v, rfl, hw, hv⟩ := ih.1 hv
      refine ⟨u ++ w, v, (List.append_assoc u w v).symm, ?_, by rwa [lastOf_append]⟩
      rw [matches_sequence_cons]
      exact .seq (by rwa [← neighbour_append]) hw
    · intro h
      obtain ⟨u, v, rfl, hu, hv⟩ := h
      obtain ⟨u, w, rfl, hu, hw⟩ := matches_seq_iff.1 (matches_sequence_cons.1 hu)
      refine ⟨u, w ++ v, List.append_assoc u w v, by rwa [neighbour_append], ih.2 ?_⟩
      exact ⟨w, v, rfl, hw, by rwa [← lastOf_append]⟩

/-- A choice matches what one of the alternatives matches. -/
theorem matches_choice_iff :
    Matches (choice ts) before x after ↔ ∃ t ∈ ts, Matches t.regex before x after := by
  induction ts with
  | nil =>
    rw [choice, matches_chars_iff]
    simp [CharSet.contains]
  | cons t ts ih =>
    cases ts with
    | nil => simp [choice]
    | cons u ts =>
      rw [choice, matches_alt_iff, ih]
      simp

/-! ## Items and alternatives -/

/-- Items, last first, that match no more than others do one by one; one of the others may stand
for two. -/
inductive ItemsWithin : List Tree → List Tree → Prop where
  | nil : ItemsWithin [] []
  | cons {t u : Tree} {ts us : List Tree} : t.Within u → ItemsWithin ts us →
      ItemsWithin (t :: ts) (u :: us)
  | pair {t t' u : Tree} {ts us : List Tree} : Regex.Within (sequence [t', t]) u.regex →
      ItemsWithin ts us → ItemsWithin (t :: t' :: ts) (u :: us)

/-- Sequences that match more can be put together. -/
theorem within_sequence_append {vs ws : List Tree} (h : Regex.Within (sequence ts) (sequence us))
    (h' : Regex.Within (sequence vs) (sequence ws)) :
    Regex.Within (sequence (ts ++ vs)) (sequence (us ++ ws)) := by
  intro before x after hx
  obtain ⟨u, v, rfl, hu, hv⟩ := matches_sequence_append.1 hx
  exact matches_sequence_append.2 ⟨u, v, rfl, h _ _ _ hu, h' _ _ _ hv⟩

/-- Items that match more one by one match more as a sequence. -/
theorem ItemsWithin.sequence (h : ItemsWithin ts us) :
    Regex.Within (sequence ts.reverse) (Tree.sequence us.reverse) := by
  induction h with
  | nil => exact .refl _
  | cons htu _ ih =>
    rw [List.reverse_cons, List.reverse_cons]
    exact within_sequence_append ih (by rwa [Tree.sequence, Tree.sequence])
  | pair htu _ ih =>
    rw [List.reverse_cons, List.reverse_cons, List.reverse_cons, List.append_assoc]
    refine within_sequence_append ih ?_
    rwa [Tree.sequence]

/-- Each of the smaller trees is within one of the greater ones. -/
theorem exists_within (h : List.Forall₂ Within ts us) (ht : t ∈ ts) : ∃ u ∈ us, t.Within u := by
  induction h with
  | nil => cases ht
  | cons hfirst _ ih =>
    rcases List.mem_cons.1 ht with rfl | ht
    · exact ⟨_, List.mem_cons_self, hfirst⟩
    · obtain ⟨u, hu, hwithin⟩ := ih ht
      exact ⟨u, List.mem_cons_of_mem _ hu, hwithin⟩

/-- Alternatives that match more one by one match more as a choice. -/
theorem within_ofAlternatives (h : List.Forall₂ Within ts us) :
    (ofAlternatives ts).Within (ofAlternatives us) := by
  by_cases hts : ts = []
  · subst hts
    cases h
    exact .refl _
  · have hus : us ≠ [] := by
      intro hus
      subst hus
      cases h
      exact hts rfl
    unfold Within
    rw [regex_ofAlternatives hts, regex_ofAlternatives hus]
    intro before x after hx
    obtain ⟨t, ht, hx⟩ := matches_choice_iff.1 hx
    obtain ⟨u, hu, hwithin⟩ := exists_within h ht
    exact matches_choice_iff.2 ⟨u, hu, hwithin _ _ _ hx⟩

end Tree
end AnswerKey.Regex
