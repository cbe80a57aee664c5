import AnswerKey.Key.Settings
import AnswerKey.Proofs.Number.Literal
import Mathlib.Algebra.Group.Int.Defs

/-!
# Integers digit by digit

A size is read digit by digit in 64 bits: ten times the number so far, and then the digit, away from
zero.  On one side of zero the numbers only grow, so a step that does not fit is never made good by
a later one, and the digits are refused just when the integer that they write is out of range
(`foldlM_pushDigit?`).  The sign of the text is that of the integer then, so the end of the range
that it tells is the nearest number there is.
-/

namespace AnswerKey

namespace Number

variable {t blanks digits rest : Text} {sign : Option Char} {k m : Nat}

/-! ## Reading in 64 bits -/

/-- A number that 64 bits hold together with its sign. -/
def within64? (n : Int) : Option Int :=
  if -2 ^ 63 ≤ n ∧ n < 2 ^ 63 then some n else none

/-- A number on the side of zero that a sign tells. -/
def signed (sign : Option Char) (n : Nat) : Int :=
  if sign = some '-' then -n else n

/-- One more digit behind a number, if 64 bits hold ten times the number and then the whole. -/
def pushDigit? (sign : Option Char) (n : Int) (c : Char) : Option Int :=
  (within64? (n * 10)).bind fun tens => within64? (tens + signed sign (c.toNat - '0'.toNat))

/-- The integer that a whole text writes, if 64 bits hold what its digits make one by one. -/
def readInt64? (t : Text) : Option Int64 :=
  let (sign, digits) := readSign t
  if digits ≠ [] ∧ digits.all Char.isDigit = true then
    (digits.foldlM (pushDigit? sign) 0).map Int64.ofInt
  else none

/-- The integer that a text begins with, blanks before it aside, as it is written. -/
def leadingIntegerText? (t : Text) : Option Text :=
  let (sign, rest) := readSign (t.dropWhile isIntegerBlank)
  let (digits, _) := spanDigits rest
  if digits = [] then none else some (sign.toList ++ digits)

/-! ## A digit and a run of digits -/

/-- What is kept fits into 64 bits and is not changed. -/
theorem within64?_eq_some {n m : Int} (h : within64? n = some m) :
    n = m ∧ -2 ^ 63 ≤ n ∧ n < 2 ^ 63 := by
  unfold within64? at h
  split at h
  · next hrange => exact ⟨Option.some.inj h, hrange⟩
  · cases h

/-- What is not kept lies outside of 64 bits. -/
theorem within64?_eq_none {n : Int} (h : within64? n = none) : n < -2 ^ 63 ∨ 2 ^ 63 ≤ n := by
  unfold within64? at h
  split at h
  · cases h
  · omega

/-- What is out of range stays so when it grows. -/
theorem within64?_signed_eq_none (h : within64? (signed sign k) = none) (hle : k ≤ m) :
    within64? (signed sign m) = none := by
  unfold within64? signed at *
  by_cases hneg : sign = some '-' <;> simp only [hneg, if_true, if_false, reduceCtorEq,
    ite_eq_right_iff, imp_false] at h ⊢ <;> omega

/-- The two checks of a step are one check of its result. -/
theorem pushDigit?_signed (sign : Option Char) (k : Nat) (c : Char) :
    pushDigit? sign (signed sign k) c =
      within64? (signed sign (10 * k + (c.toNat - '0'.toNat))) := by
  have htens : signed sign k * 10 = signed sign (10 * k) := by
    unfold signed
    split <;> omega
  have hsum : signed sign (10 * k) + signed sign (c.toNat - '0'.toNat) =
      signed sign (10 * k + (c.toNat - '0'.toNat)) := by
    unfold signed
    split <;> omega
  unfold pushDigit?
  rw [htens]
  cases h : within64? (signed sign (10 * k)) with
  | none => exact (within64?_signed_eq_none h (Nat.le_add_right _ _)).symm
  | some n => rw [Option.bind_some, ← (within64?_eq_some h).1, hsum]

theorem le_ofDigitChars (digits : Text) (k : Nat) : k ≤ Nat.ofDigitChars 10 digits k := by
  induction digits generalizing k with
  | nil => exact Nat.le_refl k
  | cons c digits ih =>
    rw [Nat.ofDigitChars_cons]
    exact Nat.le_trans (by omega) (ih _)

/-- A run of digits gives the number that it writes behind `k`, or nothing if it is out of range. -/
theorem foldlM_pushDigit? (hk : within64? (signed sign k) = some (signed sign k)) :
    digits.foldlM (pushDigit? sign) (signed sign k) =
      within64? (signed sign (Nat.ofDigitChars 10 digits k)) := by
  induction digits generalizing k with
  | nil => exact hk.symm
  | cons c digits ih =>
    rw [List.foldlM_cons, pushDigit?_signed, Nat.ofDigitChars_cons]
    cases h : within64? (signed sign (10 * k + (c.toNat - '0'.toNat))) with
    | none =>
      -- the digits that are left only make it larger
      exact (within64?_signed_eq_none h (le_ofDigitChars digits _)).symm
    | some n =>
      obtain ⟨rfl, -⟩ := within64?_eq_some h
      exact ih h

/-! ## Integers at the front of a text -/

/-- An integer stands at the front of a text: blanks, a sign if there is one, and all the digits
that follow. -/
structure IntegerFront (t blanks : Text) (sign : Option Char) (digits rest : Text) : Prop where
  text_eq : t = blanks ++ (sign.toList ++ (digits ++ rest))
  isBlank : ∀ c ∈ blanks, c ∈ [' ', '\t', '\n', '\x0c', '\r', '\x0b']
  isSign : ∀ c ∈ sign, c = '+' ∨ c = '-'
  ne_nil : digits ≠ []
  isDigit : ∀ c ∈ digits, c.isDigit = true
  rest_head : ∀ c ∈ rest.head?, c.isDigit = false

theorem isIntegerBlank_iff {c : Char} :
    isIntegerBlank c = true ↔ c ∈ [' ', '\t', '\n', '\x0c', '\r', '\x0b'] := by
  simp [isIntegerBlank, or_assoc]

namespace IntegerFront

variable (h : IntegerFront t blanks sign digits rest)
include h

theorem head_isDigit (more : Text) : ∀ c ∈ (digits ++ more).head?, c.isDigit = true := by
  obtain ⟨d, digits, rfl⟩ := List.exists_cons_of_ne_nil h.ne_nil
  intro c hc
  exact h.isDigit c (Option.some.inj hc ▸ List.mem_cons_self)

/-- Behind the blanks the sign is read, and then the digits are next. -/
theorem readSign_eq : readSign (t.dropWhile isIntegerBlank) = (sign, digits ++ rest) := by
  have hhead : ∀ c ∈ (sign.toList ++ (digits ++ rest)).head?, isIntegerBlank c = false := by
    intro c hc
    cases sign with
    | some d =>
      obtain rfl : d = c := Option.some.inj hc
      rcases h.isSign d rfl with rfl | rfl <;> rfl
    | none => exact not_isIntegerBlank_of_isDigit (h.head_isDigit rest c hc)
  have hdrop : t.dropWhile isIntegerBlank = sign.toList ++ (digits ++ rest) := by
    rw [h.text_eq, List.dropWhile_append_of_pos fun c hc => isIntegerBlank_iff.2 (h.isBlank c hc)]
    cases hrest : sign.toList ++ (digits ++ rest) with
    | nil => rfl
    | cons c s =>
      rw [hrest] at hhead
      exact List.dropWhile_cons_of_neg (by simp [hhead c rfl])
  rw [hdrop, readSign_append h.isSign fun c hc => not_sign_of_isDigit (h.head_isDigit rest c hc)]

/-- The integer in front of a text is that of its sign and its digits. -/
theorem leadingInteger?_eq : leadingInteger? t = some (signed sign (digitsValue digits)) := by
  unfold leadingInteger? signed
  rw [h.readSign_eq]
  simp only [spanDigits_run h.isDigit h.rest_head, h.ne_nil, if_false]
  split <;> rfl

theorem leadingIntegerText?_eq : leadingIntegerText? t = some (sign.toList ++ digits) := by
  unfold leadingIntegerText?
  rw [h.readSign_eq]
  simp only [spanDigits_run h.isDigit h.rest_head, h.ne_nil, if_false]

/-- What is written at the front is read as it is, if 64 bits hold it. -/
theorem readInt64?_eq : readInt64? (sign.toList ++ digits) =
    (within64? (signed sign (digitsValue digits))).map Int64.ofInt := by
  have hhead : ∀ c ∈ digits.head?, c.isDigit = true := by
    have hall := h.head_isDigit []
    rwa [List.append_nil] at hall
  have hzero : signed sign 0 = 0 := by
    unfold signed
    split <;> rfl
  have hrun : digits.foldlM (pushDigit? sign) (signed sign 0) =
      within64? (signed sign (digitsValue digits)) :=
    foldlM_pushDigit? (by rw [hzero]; rfl)
  rw [hzero] at hrun
  unfold readInt64?
  rw [readSign_append h.isSign fun c hc => not_sign_of_isDigit (hhead c hc)]
  simp only [hrun]
  rw [if_pos ⟨h.ne_nil, List.all_eq_true.2 h.isDigit⟩]

theorem head?_eq_dash_iff : (sign.toList ++ digits).head? = some '-' ↔ sign = some '-' := by
  cases sign with
  | some c => exact Iff.rfl
  | none =>
    refine iff_of_false (fun hdash => ?_) (fun hnone => nomatch hnone)
    have hdigit := h.head_isDigit [] '-' (by rwa [List.append_nil])
    cases hdigit

end IntegerFront

/-- Either an integer stands at the front of a text, or none is read there. -/
theorem integerFront_or_none (t : Text) :
    (∃ blanks sign digits rest, IntegerFront t blanks sign digits rest) ∨
      leadingInteger? t = none ∧ leadingIntegerText? t = none := by
  obtain ⟨sign, s, hsign, htail, hisSign⟩ := exists_readSign_eq (t.dropWhile isIntegerBlank)
  obtain ⟨digits, rest, rfl, hdigits, hrest⟩ := exists_digits_append s
  by_cases hnil : digits = []
  · right
    unfold leadingInteger? leadingIntegerText?
    rw [hsign]
    simp only [spanDigits_run hdigits hrest]
    rw [if_pos hnil, if_pos hnil]
    exact ⟨rfl, rfl⟩
  · left
    refine ⟨t.takeWhile isIntegerBlank, sign, digits, rest, ?_, ?_, hisSign, hnil, hdigits, hrest⟩
    · rw [← htail, List.takeWhile_append_dropWhile]
    · exact fun c hc => isIntegerBlank_iff.1 (List.all_eq_true.1 List.all_takeWhile c hc)

/-! ## The nearest number in range -/

/-- Saturation is the nearest integer that fits into 64 bits. -/
theorem toInt_saturate (n : Int) : (saturate n).toInt = max (-2 ^ 63) (min (2 ^ 63 - 1) n) := by
  unfold saturate
  rw [Int64.toInt_minValue, Int64.toInt_maxValue, Int64.toInt_ofInt_of_le] <;> omega

/-- What does not fit is beyond the end of the range on its own side. -/
theorem getD_within64? (sign : Option Char) (k : Nat) :
    ((within64? (signed sign k)).map Int64.ofInt).getD
        (if sign = some '-' then Int64.minValue else Int64.maxValue) =
      saturate (signed sign k) := by
  rw [← Int64.toInt_inj, toInt_saturate]
  cases h : within64? (signed sign k) with
  | some n =>
    obtain ⟨rfl, hlow, hhigh⟩ := within64?_eq_some h
    rw [Option.map_some, Option.getD_some, Int64.toInt_ofInt_of_le hlow hhigh]
    omega
  | none =>
    -- the sign tells on which side of the range it lies
    have hout := within64?_eq_none h
    rw [Option.map_none, Option.getD_none]
    unfold signed at hout ⊢
    split
    · next hneg =>
      rw [if_pos hneg] at hout
      rw [Int64.toInt_minValue]
      omega
    · next hpos =>
      rw [if_neg hpos] at hout
      rw [Int64.toInt_maxValue]
      omega

end Number

/-! ## Sizes -/

namespace Settings

open Number

/-- The size that a value gives, read digit by digit.  Where the digits do not fit, it is the end of
the range that the sign tells. -/
def sizeByDigits (value : Text) : Int64 :=
  match leadingIntegerText? value with
  | none => 0
  | some text =>
    (readInt64? text).getD (if text.head? = some '-' then Int64.minValue else Int64.maxValue)

/-- An integer of any length is read as the nearest one of 64 bits. -/
theorem readSize_of_integerFront {value blanks digits rest : Text} {sign : Option Char}
    (h : IntegerFront value blanks sign digits rest) :
    readSize value = saturate (signed sign (digitsValue digits)) := by
  unfold readSize
  rw [h.leadingInteger?_eq]

/-- Reading digit by digit comes to the same, however many digits there are. -/
theorem sizeByDigits_of_integerFront {value blanks digits rest : Text} {sign : Option Char}
    (h : IntegerFront value blanks sign digits rest) :
    sizeByDigits value = saturate (signed sign (digitsValue digits)) := by
  unfold sizeByDigits
  rw [h.leadingIntegerText?_eq]
  simp only [h.readInt64?_eq, h.head?_eq_dash_iff]
  exact getD_within64? sign _

/-- A size is the integer at the front of the value, or the nearest one in range, and 0 if there is
none; reading it digit by digit comes to the same. -/
theorem readSize_exact_or_clamped (value : Text) :
    readSize value = sizeByDigits value ∧
      (∀ blanks sign digits rest, IntegerFront value blanks sign digits rest →
        (readSize value).toInt =
          max (-2 ^ 63) (min (2 ^ 63 - 1)
            (if sign = some '-' then -(digitsValue digits : Int) else digitsValue digits))) ∧
      ((∀ blanks sign digits rest, ¬ IntegerFront value blanks sign digits rest) →
        readSize value = 0) := by
  refine ⟨?_, fun blanks sign digits rest h => ?_, fun hnone => ?_⟩
  · rcases integerFront_or_none value with ⟨blanks, sign, digits, rest, h⟩ | ⟨hnumber, htext⟩
    · rw [readSize_of_integerFront h, sizeByDigits_of_integerFront h]
    · unfold readSize sizeByDigits
      rw [hnumber, htext]
  · rw [readSize_of_integerFront h, toInt_saturate]
    rfl
  · rcases integerFront_or_none value with ⟨blanks, sign, digits, rest, h⟩ | ⟨hnumber, -⟩
    · exact (hnone _ _ _ _ h).elim
    · unfold readSize
      rw [hnumber]

/-- One more than fits below zero, with zeros before it and a letter behind it, and a sign without
digits. -/
theorem readSize_exact_or_clamped_sample :
    (readSize "\x0b -0009223372036854775809e3".toList).toInt = -2 ^ 63 ∧
      readSize "+-5".toList = 0 := by
  constructor
  · exact (readSize_exact_or_clamped _).2.1 "\x0b ".toList (some '-')
      "0009223372036854775809".toList "e3".toList
      ⟨rfl, by simp, by simp, by decide, by simp, by simp⟩
  · refine (readSize_exact_or_clamped _).2.2 fun blanks sign digits rest h => ?_
    have hread := h.leadingInteger?_eq
    cases hread

end Settings

end AnswerKey
