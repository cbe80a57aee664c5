import AnswerKey.Options
import Mathlib.Data.List.Nodup

/-!
# Letters of options

A run of letters leaves each switch as the last of the switch's letters puts it, and the letters of
some options ask for these very options.  Nothing shorter asks for them: each letter is the one that
decides in every run that does.
-/

namespace AnswerKey

variable {s s' : Switch} {c : Char} {on : Bool} {o : Options} {letters other : Text}

/-! ## The letters of a switch -/

namespace Switch

theorem mem_all (s : Switch) : s ∈ all := by
  cases s <;> decide

theorem isAlpha_signal (s : Switch) (on : Bool) : (s.signal on).isAlpha = true := by
  cases s <;> cases on <;> decide

theorem utf8Size_signal (s : Switch) (on : Bool) : (s.signal on).utf8Size = 1 := by
  cases s <;> cases on <;> rfl

theorem isUpper_signal (s : Switch) (on : Bool) : (s.signal on).isUpper = on := by
  cases s <;> cases on <;> rfl

/-- Whether a character is the letter of a switch, capital or small. -/
def hears (s : Switch) (c : Char) : Bool :=
  c == s.letter || c == s.letter.toLower

/-- A switch hears its own letter in both cases. -/
theorem hears_signal (s : Switch) (on : Bool) : s.hears (s.signal on) = true := by
  cases s <;> cases on <;> decide

/-- A switch hears nothing but its letter in both cases. -/
theorem eq_signal_of_hears (h : s.hears c = true) : c = s.signal c.isUpper := by
  rw [hears, Bool.or_eq_true, beq_iff_eq, beq_iff_eq] at h
  rcases h with rfl | rfl
  · exact (congrArg s.signal (s.isUpper_signal true)).symm
  · exact (congrArg s.signal (s.isUpper_signal false)).symm

theorem isUpper_iff : c.isUpper = true ↔ 'A'.val ≤ c.val ∧ c.val ≤ 'Z'.val :=
  decide_eq_true_iff

theorem val_toUpper (h : 'a'.val ≤ c.val ∧ c.val ≤ 'z'.val) :
    c.toUpper.val = c.val + ('A'.val - 'a'.val) := by
  have heq : c.toUpper = ⟨c.val + ('A'.val - 'a'.val), _⟩ := dif_pos h
  rw [heq]

theorem val_toLower (h : c.isUpper = true) : c.toLower.val = c.val + ('a'.val - 'A'.val) := by
  have heq : c.toLower = ⟨c.val + ('a'.val - 'A'.val), _⟩ := dif_pos (isUpper_iff.1 h)
  rw [heq]

/-- A capital letter is the capital of itself and of its small letter, and of nothing else. -/
theorem toUpper_eq_iff {l : Char} (hl : l.isUpper = true) :
    c.toUpper = l ↔ c = l ∨ c = l.toLower := by
  have hA : 'A'.val.toNat = 65 := rfl
  have hZ : 'Z'.val.toNat = 90 := rfl
  have ha : 'a'.val.toNat = 97 := rfl
  have hz : 'z'.val.toNat = 122 := rfl
  -- letters of the two cases lie 32 apart; going up by that much is a subtraction that wraps around
  have hup : ('A'.val - 'a'.val).toNat = 2 ^ 32 - 32 := rfl
  have hlow : ('a'.val - 'A'.val).toNat = 32 := rfl
  have hlower := val_toLower hl
  have hrange := isUpper_iff.1 hl
  rw [UInt32.le_iff_toNat_le, UInt32.le_iff_toNat_le] at hrange
  simp only [Char.ext_iff, ← UInt32.toNat_inj]
  rw [hlower, UInt32.toNat_add, hlow]
  by_cases hc : 'a'.val ≤ c.val ∧ c.val ≤ 'z'.val
  · rw [val_toUpper hc, UInt32.toNat_add, hup]
    rw [UInt32.le_iff_toNat_le, UInt32.le_iff_toNat_le] at hc
    omega
  · have hsame : c.toUpper = c := dif_neg hc
    rw [hsame]
    rw [UInt32.le_iff_toNat_le, UInt32.le_iff_toNat_le] at hc
    omega

/-- A switch hears a character just if its upper case is the switch's letter. -/
theorem hears_iff : s.hears c = true ↔ c.toUpper = s.letter := by
  have hletter : s.letter.isUpper = true := s.isUpper_signal true
  rw [toUpper_eq_iff hletter, hears, Bool.or_eq_true, beq_iff_eq, beq_iff_eq]

/-- A character asks for a switch if it is one of the switch's letters. -/
theorem ofChar?_eq_some_iff : ofChar? c = some (s, on) ↔ s.hears c = true ∧ c.isUpper = on := by
  rw [hears_iff, ofChar?]
  constructor
  · intro h
    obtain ⟨s', hfind, he⟩ := Option.map_eq_some_iff.1 h
    cases he
    have hletter := List.find?_some hfind
    exact ⟨(beq_iff_eq.1 hletter).symm, rfl⟩
  · rintro ⟨hletter, rfl⟩
    rw [hletter]
    cases s <;> rfl

/-- No two switches have a letter in common. -/
theorem eq_of_hears (h : s.hears c = true) (h' : s'.hears c = true) : s = s' := by
  have hread := ofChar?_eq_some_iff.2 ⟨h, rfl⟩
  rw [ofChar?_eq_some_iff.2 ⟨h', rfl⟩] at hread
  exact (Prod.mk.inj (Option.some.inj hread)).1.symm

/-- The last letter of a switch in a run of letters. -/
def lastLetter? (s : Switch) (letters : Text) : Option Char :=
  (letters.filter s.hears).getLast?

/-- Whether a character is a letter of some switch. -/
def isLetter (c : Char) : Bool :=
  all.any fun s => s.hears c

/-- What is no letter of a switch can be left out. -/
theorem lastLetter?_filter (s : Switch) (letters : Text) :
    s.lastLetter? (letters.filter isLetter) = s.lastLetter? letters := by
  unfold lastLetter?
  rw [List.filter_filter]
  congr 2
  funext c
  rw [Bool.and_eq_left_iff_imp]
  exact fun h => List.any_eq_true.2 ⟨s, s.mem_all, h⟩

/-- There is no last letter for a switch just if it hears none of them. -/
theorem lastLetter?_eq_none_iff :
    s.lastLetter? letters = none ↔ ∀ c ∈ letters, ¬ s.hears c = true := by
  rw [lastLetter?, List.getLast?_eq_none_iff, List.filter_eq_nil_iff]

/-- The last letter for a switch is one of the letters, and is heard. -/
theorem mem_of_lastLetter? (h : s.lastLetter? letters = some c) :
    c ∈ letters ∧ s.hears c = true :=
  List.mem_filter.1 (List.mem_of_getLast? h)

end Switch

namespace Options

/-! ## Obeying letters -/

/-- A letter changes the switch that hears it and no other. -/
theorem get_applyLetter (o : Options) (c : Char) (s : Switch) :
    (o.applyLetter c).get s = if s.hears c then c.isUpper else o.get s := by
  by_cases hs : s.hears c = true
  · rw [if_pos hs, applyLetter, Switch.ofChar?_eq_some_iff.2 ⟨hs, rfl⟩]
    exact (get_set o s s c.isUpper).trans (if_pos rfl)
  · rw [if_neg hs, applyLetter]
    split
    · next s' on hread =>
      have hne : s ≠ s' := by
        rintro rfl
        exact hs (Switch.ofChar?_eq_some_iff.1 hread).1
      rw [get_set, if_neg hne]
    · rfl

/-- The last letter of a switch decides, and without one the switch stays as it is. -/
theorem get_apply (o : Options) (letters : Text) (s : Switch) :
    (o.apply letters).get s = (s.lastLetter? letters).elim (o.get s) Char.isUpper := by
  unfold Switch.lastLetter?
  induction letters generalizing o with
  | nil => rfl
  | cons c letters ih =>
    have hrest : (o.apply (c :: letters)).get s = ((o.applyLetter c).apply letters).get s := rfl
    rw [hrest, ih, get_applyLetter]
    by_cases hc : s.hears c = true
    · rw [if_pos hc, List.filter_cons_of_pos hc, List.getLast?_cons]
      cases (letters.filter s.hears).getLast? <;> rfl
    · rw [if_neg hc, List.filter_cons_of_neg hc]

/-- Characters that are no letter of a switch count for nothing. -/
theorem apply_filter_isLetter (o : Options) (letters : Text) :
    o.apply (letters.filter Switch.isLetter) = o.apply letters := by
  apply ext_get
  intro s
  rw [get_apply, get_apply, Switch.lastLetter?_filter]

/-! ## The letters of options -/

/-- The letters of some options are the signals of the switches that are not as by default. -/
theorem mem_letters_iff :
    c ∈ o.letters ↔ ∃ s, o.get s ≠ ({} : Options).get s ∧ c = s.signal (o.get s) := by
  rw [Options.letters, List.mem_filterMap]
  constructor
  · rintro ⟨s, -, hs⟩
    split at hs
    · cases hs
    · next hne =>
      cases hs
      exact ⟨s, hne, rfl⟩
  · rintro ⟨s, hne, rfl⟩
    exact ⟨s, s.mem_all, if_neg hne⟩

/-- Options are what their letters ask for. -/
theorem ofLetters_letters (o : Options) : ofLetters o.letters = o := by
  apply ext_get
  intro s
  have hget : (ofLetters o.letters).get s = _ := get_apply {} o.letters s
  rw [hget]
  cases hlast : s.lastLetter? o.letters with
  | none =>
    -- a switch without a letter is as at the start
    by_contra hne
    have hmem : s.signal (o.get s) ∈ o.letters := mem_letters_iff.2 ⟨s, Ne.symm hne, rfl⟩
    exact Switch.lastLetter?_eq_none_iff.1 hlast _ hmem (s.hears_signal _)
  | some c =>
    obtain ⟨hmem, hheard⟩ := Switch.mem_of_lastLetter? hlast
    obtain ⟨s', -, rfl⟩ := mem_letters_iff.1 hmem
    obtain rfl := Switch.eq_of_hears hheard (s'.hears_signal _)
    exact s.isUpper_signal _

theorem isAlpha_of_mem_letters (h : c ∈ o.letters) : c.isAlpha = true := by
  obtain ⟨s, -, rfl⟩ := mem_letters_iff.1 h
  exact s.isAlpha_signal (o.get s)

/-- No letter is written twice. -/
theorem nodup_letters (o : Options) : o.letters.Nodup := by
  have hall : Switch.all.Nodup := by decide
  refine hall.filterMap fun s s' c hs hs' => ?_
  rw [Option.mem_def] at hs hs'
  split at hs
  · cases hs
  · split at hs'
    · cases hs'
    · cases hs
      have hheard := s'.hears_signal (o.get s')
      rw [Option.some.inj hs'] at hheard
      exact Switch.eq_of_hears (s.hears_signal _) hheard

/-- The letters of what a run asks for are among the letters of the run. -/
theorem letters_ofLetters_subset (letters : Text) : (ofLetters letters).letters ⊆ letters := by
  intro c hc
  obtain ⟨s, hne, rfl⟩ := mem_letters_iff.1 hc
  have hget : (ofLetters letters).get s = _ := get_apply {} letters s
  cases hlast : s.lastLetter? letters with
  | none =>
    rw [hlast] at hget
    exact absurd hget hne
  | some d =>
    obtain ⟨hmem, hheard⟩ := Switch.mem_of_lastLetter? hlast
    rw [hlast, Option.elim_some] at hget
    rw [hget, ← Switch.eq_signal_of_hears hheard]
    exact hmem

theorem byteSize_letters (o : Options) : Text.byteSize o.letters = o.letters.length := by
  refine Text.byteSize_eq_length fun c hc => ?_
  obtain ⟨s, -, rfl⟩ := mem_letters_iff.1 hc
  exact s.utf8Size_signal _

/-- A run that asks for the same options is not shorter, in characters or in bytes. -/
theorem letters_shortest (h : ofLetters other = o) :
    o.letters.length ≤ other.length ∧ Text.byteSize o.letters ≤ Text.byteSize other := by
  subst h
  have hle : (ofLetters other).letters.length ≤ other.length :=
    (nodup_letters _).length_le_of_subset (letters_ofLetters_subset other)
  refine ⟨hle, ?_⟩
  rw [byteSize_letters]
  exact Nat.le_trans hle (Text.length_le_byteSize other)

/-- A run of letters leaves each switch as the last of the switch's letters puts it; no other
character counts, and a run goes on where another one has ended.  Runs ask for the same options if
these have the same letters, which ask for them too; and nothing shorter does. -/
theorem last_letter_wins_and_letters_shortest (o : Options) (letters more : Text) :
    (∀ s, (o.apply letters).get s =
      match s.lastLetter? letters with
      | some c => c.isUpper
      | none => o.get s) ∧
    o.apply (letters.filter Switch.isLetter) = o.apply letters ∧
    o.apply (letters ++ more) = (o.apply letters).apply more ∧
    (ofLetters letters = ofLetters more ↔
      (ofLetters letters).letters = (ofLetters more).letters) ∧
    ofLetters (ofLetters letters).letters = ofLetters letters ∧
    ∀ other, ofLetters other = ofLetters letters →
      (ofLetters letters).letters.length ≤ other.length ∧
        Text.byteSize (ofLetters letters).letters ≤ Text.byteSize other := by
  refine ⟨fun s => ?_, apply_filter_isLetter o letters, apply_append o letters more, ?_,
    ofLetters_letters _, fun other hother => letters_shortest hother⟩
  · rw [get_apply]
    cases s.lastLetter? letters <;> rfl
  · refine ⟨congrArg Options.letters, fun h => ?_⟩
    rw [← ofLetters_letters (ofLetters letters), h, ofLetters_letters]

/-- Of seven characters four decide, and no fewer than four letters are needed. -/
theorem last_letter_wins_sample :
    ofLetters "oiIÖstO".toList = ⟨true, false, false, false, true, false, false⟩ ∧
    ∀ other, ofLetters other = ofLetters "oiIÖstO".toList → 4 ≤ other.length := by
  obtain ⟨-, -, -, -, -, hshortest⟩ :=
    last_letter_wins_and_letters_shortest {} "oiIÖstO".toList []
  exact ⟨by decide, fun other hother => (hshortest other hother).1⟩

end Options
end AnswerKey
