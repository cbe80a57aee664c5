import AnswerKey.Regex.Size
import Mathlib.Tactic.Common

/-!
# What a run costs

A fragment of a run takes the same room wherever it is made, as long as there is room for it.  So
what a run takes is the sum of what its parts take, no matter which literals in it have become one,
and a run between anchors fits if that sum does.
-/

namespace AnswerKey.Regex

/-! ## Totals -/

section Total

variable {α β : Type}

/-- What some things take together. -/
def total (cost : α → Nat) : List α → Nat
  | [] => 0
  | a :: l => cost a + total cost l

/-- Two lists take what each of them takes. -/
theorem total_append (cost : α → Nat) (l l' : List α) :
    total cost (l ++ l') = total cost l + total cost l' := by
  induction l with
  | nil => exact (Nat.zero_add _).symm
  | cons a l ih => rw [List.cons_append, total, total, ih, Nat.add_assoc]

/-- The order does not matter. -/
theorem total_reverse (cost : α → Nat) (l : List α) : total cost l.reverse = total cost l := by
  induction l with
  | nil => rfl
  | cons a l ih =>
    rw [List.reverse_cons, total_append, ih, Nat.add_comm]
    rfl

/-- What things take that are made of others. -/
theorem total_flatMap {cost : β → Nat} {whole : α → Nat} {parts : α → List β}
    (h : ∀ a, total cost (parts a) = whole a) (l : List α) :
    total cost (l.flatMap parts) = total whole l := by
  induction l with
  | nil => rfl
  | cons a l ih => rw [List.flatMap_cons, total_append, h, ih, total]

theorem total_replicate (cost : α → Nat) (n : Nat) (a : α) :
    total cost (List.replicate n a) = n * cost a := by
  induction n with
  | zero => exact (Nat.zero_mul _).symm
  | succ n ih => rw [List.replicate_succ, total, ih, Nat.succ_mul, Nat.add_comm]

end Total

/-! ## Room -/

namespace Room

variable {r s : Room} {n : Nat}

@[simp] theorem bytes_addStates : (r.addStates n).bytes = r.bytes + n * ofState := by
  simp only [bytes, addStates, Nat.add_mul]
  omega

@[simp] theorem bytes_addFork : (r.addFork n).bytes = r.bytes + (ofState + n * ofLink) := by
  simp only [bytes, addFork, Nat.add_mul]
  omega

@[simp] theorem bytes_add : (r.add s).bytes = r.bytes + s.bytes := by
  simp only [bytes, add, Nat.add_mul]
  omega

/-- A machine fits as long as its bytes do. -/
theorem fits_iff : r.fits = true ↔ r.bytes ≤ limit :=
  decide_eq_true_iff

end Room

/-! ## Fragments -/

namespace Fragment

variable {f g : Fragment} {m n : Nat}

/-- A fragment takes `n` bytes behind anything, and if that is too much it is seen to be. -/
structure Takes (f : Fragment) (n : Nat) : Prop where
  bytes_grow : ∀ r : Room, r.bytes + n ≤ Room.limit → (f.grow r).bytes = r.bytes + n
  exceeds : ∀ r : Room, Room.limit < r.bytes + n → Room.limit < (f.grow r).bytes

/-- Whether a fragment fits is seen from the sum. -/
theorem Takes.fits_iff (h : f.Takes n) (r : Room) :
    (f.grow r).fits = true ↔ r.bytes + n ≤ Room.limit := by
  rw [Room.fits_iff]
  by_cases hn : r.bytes + n ≤ Room.limit
  · rw [h.bytes_grow r hn]
  · exact iff_of_false (Nat.not_le.2 (h.exceeds r (Nat.not_le.1 hn))) hn

/-- Where the bytes are added up exactly. -/
theorem takes_of_bytes (h : ∀ r, (f.grow r).bytes = r.bytes + n) : f.Takes n :=
  ⟨fun r _ => h r, fun r hr => (h r).symm ▸ hr⟩

theorem takes_fixed (r : Room) : (fixed r).Takes r.bytes :=
  takes_of_bytes fun _ => Room.bytes_add.trans (Nat.add_comm _ _)

/-- A fragment behind another one takes room after it. -/
theorem Takes.comp (hf : f.Takes m) (hg : g.Takes n) :
    Takes ⟨fun r => g.grow (f.grow r)⟩ (m + n) where
  bytes_grow r hr := by
    have hfirst := hf.bytes_grow r (by omega)
    have hsecond := hg.bytes_grow (f.grow r) (by omega)
    show (g.grow (f.grow r)).bytes = _
    omega
  exceeds r hr := by
    -- either the first part is already too much, or the second is
    by_cases hm : r.bytes + m ≤ Room.limit
    · have hfirst := hf.bytes_grow r hm
      exact hg.exceeds _ (by omega)
    · have hfirst := hf.exceeds r (by omega)
      exact hg.exceeds _ (by omega)

/-- A fork takes a state and its links. -/
theorem takes_fork (n : Nat) : Takes ⟨Room.addFork n⟩ (Room.ofState + n * Room.ofLink) :=
  takes_of_bytes fun _ => Room.bytes_addFork

theorem takes_states (n : Nat) : Takes ⟨Room.addStates n⟩ (n * Room.ofState) :=
  takes_of_bytes fun _ => Room.bytes_addStates

/-- A single copy is made unless there is no room even before it. -/
theorem Takes.copies_one (h : f.Takes n) : Takes ⟨f.copies 1⟩ n where
  bytes_grow r hr := by
    have hfits : r.fits = true := Room.fits_iff.2 (by omega)
    show (f.copies 1 r).bytes = _
    rw [copies, if_pos hfits]
    exact h.bytes_grow r hr
  exceeds r hr := by
    show Room.limit < (f.copies 1 r).bytes
    rw [copies]
    split
    · exact h.exceeds r hr
    · next hno => exact Nat.not_le.1 (mt Room.fits_iff.2 hno)

/-- What fragments take one after the other. -/
theorem takes_run_map {α : Type} {l : List α} {fragment : α → Fragment} {cost : α → Nat}
    (h : ∀ a ∈ l, (fragment a).Takes (cost a)) : (run (l.map fragment)).Takes (total cost l) := by
  induction l with
  | nil => exact takes_of_bytes fun _ => rfl
  | cons a l ih =>
    obtain ⟨hfirst, hrest⟩ := List.forall_mem_cons.1 h
    exact hfirst.comp (ih hrest)

end Fragment

/-! ## Parts of runs -/

namespace Shape

variable {s : Shape} {ss : List Shape}

/-- What a part of a run takes. -/
def cost : Shape → Nat
  | assertion _ => Room.ofState
  | literal t => t.byteSize * Room.ofState
  | set table _ => 2 * Room.ofState + table.length * Room.ofByteLink
  | repeated s _ none _ => s.cost + (Room.ofState + 2 * Room.ofLink)
  | repeated s _ (some _) _ => s.cost + (2 * Room.ofState + 2 * Room.ofLink)
  | _ => 0

/-- A part of a run that takes its cost on the way forward and on the way backward. -/
structure IsPlain (s : Shape) : Prop where
  items : s.items = [s]
  forward : (s.fragment .forward).Takes s.cost
  backward : (s.reversed.fragment .backward).Takes s.cost

/-! ### Single parts -/

theorem isPlain_assertion (a : Assertion) : (assertion a).IsPlain :=
  ⟨rfl, Fragment.takes_fixed { states := 1 }, Fragment.takes_fixed { states := 1 }⟩

theorem byteSize_reverse (t : Text) : Text.byteSize t.reverse = t.byteSize := by
  induction t with
  | nil => rfl
  | cons c t ih =>
    rw [List.reverse_cons, Text.byteSize_append, ih, Text.byteSize, Nat.add_comm]
    rfl

/-- A literal takes a state for each byte, in both directions. -/
theorem isPlain_literal (t : Text) : (literal t).IsPlain := by
  have htakes : ∀ t : Text, (Fragment.fixed { states := t.byteSize }).Takes (literal t).cost :=
    fun t => Fragment.takes_fixed { states := t.byteSize }
  refine ⟨rfl, htakes t, ?_⟩
  have hcost : (literal t.reverse).cost = (literal t).cost := by rw [cost, cost, byteSize_reverse]
  rw [← hcost]
  exact htakes t.reverse

/-- A set of ASCII characters takes its ranges, in both directions. -/
theorem isPlain_set {table : Unicode.Ranges} (k : Alphabet)
    (h : table.all (·.2 < 128) = true) : (set table k).IsPlain := by
  have htakes : ∀ d, ((set table k).fragment d).Takes (set table k).cost := by
    intro d
    have hcost : (Room.addReader table.length { states := 1 }).bytes = (set table k).cost := by
      show 2 * Room.ofState + (0 + table.length * Room.ofByteLink) = _
      rw [Nat.zero_add, cost]
    rw [fragment, Fragment.ofSet, if_pos h, ← hcost]
    exact Fragment.takes_fixed _
  exact ⟨rfl, htakes .forward, htakes .backward⟩

/-- Any number of rounds of a set, or at least one. -/
theorem IsPlain.repeated_set {table : Unicode.Ranges} {k : Alphabet} (h : (set table k).IsPlain)
    (hne : table ≠ []) {least : Nat} (hleast : least ≤ 1) (isLazy : Bool) :
    (repeated (set table k) least none isLazy).IsPlain := by
  have htakes : ∀ d, ((set table k).fragment d).Takes (set table k).cost →
      ((repeated (set table k) least none isLazy).fragment d).Takes
        (repeated (set table k) least none isLazy).cost := by
    intro d hset
    obtain ⟨range, table, rfl⟩ := List.exists_cons_of_ne_nil hne
    -- the fork is made before the round if none is needed, and behind it if one is
    rcases Nat.le_one_iff_eq_zero_or_eq_one.1 hleast with rfl | rfl
    · rw [cost, Nat.add_comm]
      exact (Fragment.takes_fork 2).comp hset
    · exact hset.copies_one.comp (Fragment.takes_fork 2)
  exact ⟨rfl, htakes .forward h.forward, htakes .backward h.backward⟩

/-- A literal that may be missing. -/
theorem isPlain_optional (t : Text) (isLazy : Bool) :
    (repeated (literal t) 0 (some 1) isLazy).IsPlain := by
  have htakes : ∀ u d, ((literal u).fragment d).Takes (literal t).cost →
      ((repeated (literal u) 0 (some 1) isLazy).fragment d).Takes
        (repeated (literal t) 0 (some 1) isLazy).cost := by
    intro u d hliteral
    have hcost : (repeated (literal t) 0 (some 1) isLazy).cost =
        (Room.ofState + 2 * Room.ofLink) + (literal t).cost + 1 * Room.ofState := by
      show (literal t).cost + (2 * Room.ofState + 2 * Room.ofLink) = _
      omega
    rw [hcost]
    exact ((Fragment.takes_fork 2).comp hliteral).comp (Fragment.takes_states 1)
  exact ⟨rfl, htakes t .forward (isPlain_literal t).forward,
    htakes t.reverse .backward (isPlain_literal t).backward⟩

/-! ### Runs -/

/-- Literals that become one take what they take by themselves. -/
theorem isPlain_precede (hs : s.IsPlain) (hss : ∀ u ∈ ss, u.IsPlain) :
    (∀ u ∈ precede s ss, u.IsPlain) ∧ total cost (precede s ss) = s.cost + total cost ss := by
  fun_cases precede s ss with
  | case1 t u ss =>
    refine ⟨List.forall_mem_cons.2 ⟨isPlain_literal _, (List.forall_mem_cons.1 hss).2⟩, ?_⟩
    simp only [total, cost, Text.byteSize_append, Nat.add_mul]
    omega
  | case2 => exact ⟨List.forall_mem_cons.2 ⟨hs, hss⟩, rfl⟩

/-- A run as it is made of its parts. -/
def joined (ss : List Shape) : List Shape :=
  ss.foldr precede []

/-- Literals that stand side by side are joined to plain parts, which take as much together. -/
theorem isPlain_joined (hss : ∀ u ∈ ss, u.IsPlain) :
    (∀ u ∈ joined ss, u.IsPlain) ∧ total cost (joined ss) = total cost ss := by
  induction ss with
  | nil => exact ⟨hss, rfl⟩
  | cons s ss ih =>
    obtain ⟨hs, hss⟩ := List.forall_mem_cons.1 hss
    obtain ⟨hplain, hcost⟩ := ih hss
    obtain ⟨hplain, hcost'⟩ := isPlain_precede hs hplain
    exact ⟨hplain, hcost'.trans (congrArg (s.cost + ·) hcost)⟩

/-- What a run adds to a run around it are its parts, joined. -/
theorem items_run (hss : ∀ u ∈ ss.flatMap items, u.IsPlain) :
    (run ss).items = joined (ss.flatMap items) := by
  have hplain := (isPlain_joined hss).1
  unfold run
  rw [← joined]
  split
  · next h => rw [h]; rfl
  · next s h =>
    rw [h] at hplain ⊢
    exact (hplain s List.mem_cons_self).items
  · rfl

/-! ### Runs between anchors -/

theorem fragments_eq_map (d : Direction) (ss : List Shape) :
    fragments d ss = ss.map (fragment d) := by
  induction ss with
  | nil => rfl
  | cons s ss ih => rw [fragments, ih, List.map_cons]

theorem allReversed_eq_map (ss : List Shape) : allReversed ss = ss.map reversed := by
  induction ss with
  | nil => rfl
  | cons s ss ih => rw [allReversed, ih, List.map_cons]

/-- A run of plain parts takes the sum of their costs, in both directions. -/
theorem takes_concat (hss : ∀ u ∈ ss, u.IsPlain) :
    ((concat ss).fragment .forward).Takes (total cost ss) ∧
      ((concat ss).reversed.fragment .backward).Takes (total cost ss) := by
  rw [reversed, fragment, fragment, fragments_eq_map, fragments_eq_map, allReversed_eq_map,
    List.map_reverse, List.map_map, ← List.map_reverse]
  refine ⟨Fragment.takes_run_map fun s hs => (hss s hs).forward, ?_⟩
  rw [← total_reverse]
  exact Fragment.takes_run_map fun s hs => (hss s (List.mem_reverse.1 hs)).backward

/-- Whether an anchored machine fits on the way forward is seen from what its run takes. -/
theorem fits_forward_iff {n : Nat} (hstart : s.startsWith .textStart = true)
    (h : (s.fragment .forward).Takes n) :
    (s.room .forward).fits = true ↔ 4 * Room.ofState + n ≤ Room.limit := by
  have hgroup := (((Fragment.takes_fixed { states := 1 }).comp h).comp
    (Fragment.takes_fixed { states := 1 })).comp (Fragment.takes_states 1)
  have hfits := hgroup.fits_iff { states := 1 }
  rw [room, hstart]
  refine hfits.trans ?_
  simp only [Room.bytes]
  omega

/-- Whether an anchored machine fits on the way backward is seen from what its run takes. -/
theorem fits_backward_iff {n : Nat} (hend : s.reversed.startsWith .textEnd = true)
    (h : (s.reversed.fragment .backward).Takes n) :
    (s.room .backward).fits = true ↔ 2 * Room.ofState + n ≤ Room.limit := by
  have hfits := (h.comp (Fragment.takes_states 1)).fits_iff { states := 1 }
  simp only [room]
  rw [hend]
  refine hfits.trans ?_
  simp only [Room.bytes]
  omega

/-- An assertion is not joined with what stands before it. -/
theorem joined_append_assertion (ss : List Shape) (a : Assertion) :
    ∃ parts, joined (ss ++ [assertion a]) = parts ++ [assertion a] := by
  induction ss with
  | nil => exact ⟨[], rfl⟩
  | cons s ss ih =>
    obtain ⟨parts, hparts⟩ := ih
    show ∃ parts, precede s (joined (ss ++ [assertion a])) = parts ++ [assertion a]
    generalize joined (ss ++ [assertion a]) = rest at hparts
    fun_cases precede s rest with
    | case1 t u rest =>
      cases parts with
      | nil => cases hparts
      | cons part parts =>
        obtain ⟨-, rfl⟩ := List.cons.inj hparts
        exact ⟨_ :: parts, rfl⟩
    | case2 =>
      rw [hparts]
      exact ⟨s :: parts, rfl⟩

/-- A run between anchors fits if what it takes does, and what is around every expression. -/
theorem run_fits_iff {inner : List Shape} (hplain : ∀ u ∈ inner, u.IsPlain)
    (h : ss.flatMap items = assertion .textStart :: (inner ++ [assertion .textEnd])) :
    (run ss).fits = true ↔ 6 * Room.ofState + total cost inner ≤ Room.limit := by
  have hplain' : ∀ u ∈ inner ++ [assertion .textEnd], u.IsPlain := by
    intro u hu
    rcases List.mem_append.1 hu with hu | hu
    · exact hplain u hu
    · rw [List.mem_singleton.1 hu]
      exact isPlain_assertion _
  -- joining may change what is between the anchors, but neither the anchors nor the sum
  obtain ⟨parts, hparts⟩ := joined_append_assertion inner .textEnd
  obtain ⟨hjoined, hcost⟩ := isPlain_joined hplain'
  rw [hparts] at hjoined hcost
  have hrun : run ss = concat (assertion .textStart :: (parts ++ [assertion .textEnd])) := by
    have hall : joined (ss.flatMap items) =
        assertion .textStart :: (parts ++ [assertion .textEnd]) := by
      rw [h, ← hparts]
      rfl
    unfold run
    rw [← joined, hall]
    cases parts <;> rfl
  have hreversed : (run ss).reversed.startsWith .textEnd = true := by
    rw [hrun, reversed, allReversed_eq_map, List.map_cons, List.map_append, List.reverse_cons,
      List.reverse_append]
    rfl
  obtain ⟨hforward, hbackward⟩ :=
    takes_concat (List.forall_mem_cons.2 ⟨isPlain_assertion .textStart, hjoined⟩)
  rw [← hrun] at hforward hbackward
  have htotal : total cost (assertion .textStart :: (parts ++ [assertion .textEnd])) =
      2 * Room.ofState + total cost inner := by
    have hcons : total cost (assertion .textStart :: (parts ++ [assertion .textEnd])) =
        Room.ofState + total cost (parts ++ [assertion .textEnd]) := rfl
    have hlast : total cost [assertion .textEnd] = Room.ofState := rfl
    rw [hcons, hcost, total_append, hlast]
    omega
  have hstart : (run ss).startsWith .textStart = true := by
    rw [hrun]
    rfl
  -- the way forward takes two states more than the way backward, so it decides
  rw [fits, Bool.and_eq_true, fits_forward_iff hstart hforward,
    fits_backward_iff hreversed hbackward, htotal]
  omega

end Shape

/-! ## Trees -/

namespace Tree

open Shape

variable {t : Tree} {ts : List Tree}

/-- A tree that comes to a run. -/
def IsFlat (t : Tree) : Prop :=
  ∀ s ∈ (ofTree t).items, s.IsPlain

/-- What a tree takes that comes to a run. -/
def cost (t : Tree) : Nat :=
  total Shape.cost (ofTree t).items

/-- Trees side by side have their items side by side. -/
theorem flatMap_items_ofTrees (ts : List Tree) :
    (ofTrees ts).flatMap items = ts.flatMap fun t => (ofTree t).items := by
  induction ts with
  | nil => rfl
  | cons t ts ih => rw [ofTrees, List.flatMap_cons, List.flatMap_cons, ih]

/-- Flat trees have plain items. -/
theorem isPlain_items_ofTrees (h : ∀ t ∈ ts, t.IsFlat) :
    ∀ s ∈ (ofTrees ts).flatMap items, s.IsPlain := by
  rw [flatMap_items_ofTrees]
  intro s hs
  obtain ⟨t, ht, hs⟩ := List.mem_flatMap.1 hs
  exact h t ht s hs

/-- The items of trees take what the trees do. -/
theorem total_items_ofTrees (ts : List Tree) :
    total Shape.cost ((ofTrees ts).flatMap items) = total cost ts := by
  rw [flatMap_items_ofTrees]
  exact total_flatMap (fun _ => rfl) ts

/-- Flat trees one after the other are flat, and take their sum. -/
theorem isFlat_concat (h : ∀ t ∈ ts, t.IsFlat) :
    (concat ts).IsFlat ∧ (concat ts).cost = total cost ts := by
  have hplain := isPlain_items_ofTrees h
  obtain ⟨hjoined, hcost⟩ := isPlain_joined hplain
  unfold IsFlat cost
  rw [ofTree, items_run hplain, hcost, total_items_ofTrees]
  exact ⟨hjoined, rfl⟩

/-- Some trees take what they take one by one. -/
theorem isFlat_ofItems (h : ∀ t ∈ ts, t.IsFlat) :
    (ofItems ts).IsFlat ∧ (ofItems ts).cost = total cost ts := by
  match ts with
  | [] => exact ⟨List.forall_mem_nil _, rfl⟩
  | [t] => exact ⟨h t List.mem_cons_self, rfl⟩
  | t :: u :: ts => exact isFlat_concat h

/-- A single character is a literal. -/
theorem ofTree_char (c : Char) (k : Alphabet) (height : Nat) :
    ofTree (.set (.char c) k height) = literal [c] := by
  simp [ofTree, ofSet, CharSet.ranges, Unicode.Ranges.isSingle]

end Tree
end AnswerKey.Regex
