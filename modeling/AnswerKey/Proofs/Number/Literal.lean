import AnswerKey.Number.Literal

/-!
# Numbers that have been written

Decimal digits stand for the number that they were written for, and what follows them is left
alone.
-/

namespace AnswerKey.Number

variable {t : Text}

/-- The decimal digits of a number. -/
def digitsOf (n : Nat) : Text :=
  Nat.toDigits 10 n

theorem isDigit_of_mem_digitsOf {n : Nat} {c : Char} (h : c ∈ digitsOf n) : c.isDigit = true :=
  Nat.isDigit_of_mem_toDigits (by decide) (by decide) h

theorem digitsOf_ne_nil (n : Nat) : digitsOf n ≠ [] :=
  Nat.toDigits_ne_nil

/-- Digits are read back as the number they were written for. -/
theorem digitsValue_digitsOf (n : Nat) : digitsValue (digitsOf n) = n :=
  Nat.ofDigitChars_ten_toDigits

/-- A run of digits ends where something else begins. -/
theorem spanDigits_run {digits : Text} (hdigits : ∀ c ∈ digits, c.isDigit = true)
    (ht : ∀ c ∈ t.head?, c.isDigit = false) : spanDigits (digits ++ t) = (digits, t) := by
  unfold spanDigits
  rw [List.takeWhile_append_of_pos hdigits, List.dropWhile_append_of_pos hdigits]
  rcases t with _ | ⟨c, t⟩
  · simp
  · have hc : c.isDigit = false := ht c rfl
    simp [hc]

/-- The digits of a number end where something else begins. -/
theorem spanDigits_append (n : Nat) (ht : ∀ c ∈ t.head?, c.isDigit = false) :
    spanDigits (digitsOf n ++ t) = (digitsOf n, t) :=
  spanDigits_run (fun _ => isDigit_of_mem_digitsOf) ht

theorem spanDigits_digitsOf (n : Nat) : spanDigits (digitsOf n) = (digitsOf n, []) := by
  have h := spanDigits_append (t := []) n (by simp)
  rwa [List.append_nil] at h

/-- Every text is a run of digits, which may be empty, and something that begins with none. -/
theorem exists_digits_append (t : Text) : ∃ digits rest, t = digits ++ rest ∧
    (∀ c ∈ digits, c.isDigit = true) ∧ ∀ c ∈ rest.head?, c.isDigit = false := by
  refine ⟨t.takeWhile Char.isDigit, t.dropWhile Char.isDigit,
    (List.takeWhile_append_dropWhile).symm, List.all_eq_true.1 List.all_takeWhile, fun c hc => ?_⟩
  have hhead := List.head?_dropWhile_not Char.isDigit t
  rw [Option.mem_def.1 hc] at hhead
  simpa using hhead

/-! ## Signs -/

/-- A sign is read off the front of what follows it. -/
theorem readSign_append {sign : Option Char} (hsign : ∀ c ∈ sign, c = '+' ∨ c = '-')
    (hhead : ∀ c ∈ t.head?, c ≠ '+' ∧ c ≠ '-') : readSign (sign.toList ++ t) = (sign, t) := by
  cases sign with
  | some c =>
    rcases hsign c rfl with rfl | rfl <;> rfl
  | none =>
    show readSign t = (none, t)
    unfold readSign
    split
    · exact ((hhead '+' rfl).1 rfl).elim
    · exact ((hhead '-' rfl).2 rfl).elim
    · rfl

/-- A digit is no sign. -/
theorem not_sign_of_isDigit {c : Char} (h : c.isDigit = true) : c ≠ '+' ∧ c ≠ '-' := by
  constructor <;> rintro rfl <;> cases h

/-- Every text is a sign, which may be missing, and what is read behind it. -/
theorem exists_readSign_eq (t : Text) : ∃ sign rest, readSign t = (sign, rest) ∧
    t = sign.toList ++ rest ∧ ∀ c ∈ sign, c = '+' ∨ c = '-' := by
  unfold readSign
  split
  · next rest => exact ⟨some '+', rest, rfl, rfl, fun c hc => .inl (Option.some.inj hc).symm⟩
  · next rest => exact ⟨some '-', rest, rfl, rfl, fun c hc => .inr (Option.some.inj hc).symm⟩
  · exact ⟨none, t, rfl, rfl, fun c hc => nomatch hc⟩

/-! ## Integers that have been written -/

/-- An integer in decimal digits, behind a dash if it is negative. -/
def integerText (i : Int) : Text :=
  if i < 0 then '-' :: digitsOf i.natAbs else digitsOf i.natAbs

theorem integerText_ne_nil (i : Int) : integerText i ≠ [] := by
  unfold integerText
  split
  · exact List.cons_ne_nil _ _
  · exact digitsOf_ne_nil _

/-- An integer is written with digits and a dash only. -/
theorem not_mem_integerText {i : Int} {c : Char} (hdigit : c.isDigit = false) (hdash : c ≠ '-') :
    c ∉ integerText i := by
  have hdigits : c ∉ digitsOf i.natAbs := by
    intro h
    rw [isDigit_of_mem_digitsOf h] at hdigit
    cases hdigit
  unfold integerText
  split
  · simp [hdash, hdigits]
  · exact hdigits

/-- An integer ends in a digit. -/
theorem isDigit_of_mem_getLast?_integerText {i : Int} {c : Char}
    (h : c ∈ (integerText i).getLast?) : c.isDigit = true := by
  have hlast : (integerText i).getLast? = (digitsOf i.natAbs).getLast? := by
    unfold integerText
    split
    · rw [List.getLast?_cons, List.getLast?_eq_some_getLast (digitsOf_ne_nil _), Option.getD_some]
    · rfl
  rw [hlast] at h
  exact isDigit_of_mem_digitsOf (List.mem_of_getLast? h)

theorem beq_of_isDigit {c d : Char} (hc : c.isDigit = true) (hd : d.isDigit = false) :
    (c == d) = false := by
  rw [beq_eq_false_iff_ne]
  intro he
  rw [he, hd] at hc
  cases hc

theorem not_isIntegerBlank_of_isDigit {c : Char} (h : c.isDigit = true) :
    isIntegerBlank c = false := by
  unfold isIntegerBlank
  simp only [Bool.or_eq_false_iff]
  exact ⟨⟨⟨⟨⟨beq_of_isDigit h rfl, beq_of_isDigit h rfl⟩, beq_of_isDigit h rfl⟩,
    beq_of_isDigit h rfl⟩, beq_of_isDigit h rfl⟩, beq_of_isDigit h rfl⟩

theorem not_isPadding_of_isDigit {c : Char} (h : c.isDigit = true) :
    Text.isPadding c = false := by
  unfold Text.isPadding
  simp only [Bool.or_eq_false_iff]
  exact ⟨⟨⟨⟨⟨beq_of_isDigit h rfl, beq_of_isDigit h rfl⟩, beq_of_isDigit h rfl⟩,
    beq_of_isDigit h rfl⟩, beq_of_isDigit h rfl⟩, beq_of_isDigit h rfl⟩

/-- There is no sign to be read where a digit stands. -/
theorem readSign_cons_of_isDigit {c : Char} (h : c.isDigit = true) :
    readSign (c :: t) = (none, c :: t) := by
  have hsign : ∀ d ∈ (none : Option Char), d = '+' ∨ d = '-' := nofun
  have hhead : ∀ d ∈ (c :: t).head?, d ≠ '+' ∧ d ≠ '-' := fun d hd =>
    not_sign_of_isDigit (Option.some.inj hd ▸ h)
  exact readSign_append hsign hhead

/-- The sign and the digits of an integer that has been written. -/
theorem readSign_integerText (i : Int) :
    readSign ((integerText i).dropWhile isIntegerBlank) =
      (if i < 0 then some '-' else none, digitsOf i.natAbs) := by
  unfold integerText
  by_cases hneg : i < 0
  · rw [if_pos hneg, if_pos hneg]
    rfl
  · rw [if_neg hneg, if_neg hneg]
    obtain ⟨c, digits, hcons⟩ := List.exists_cons_of_ne_nil (digitsOf_ne_nil i.natAbs)
    have hc : c.isDigit = true := isDigit_of_mem_digitsOf (hcons ▸ List.mem_cons_self)
    rw [hcons, List.dropWhile_cons_of_neg (by simp [not_isIntegerBlank_of_isDigit hc])]
    exact readSign_cons_of_isDigit hc

/-- An integer is read back from its text. -/
theorem leadingInteger?_integerText (i : Int) : leadingInteger? (integerText i) = some i := by
  unfold leadingInteger?
  rw [readSign_integerText]
  simp only
  rw [spanDigits_digitsOf]
  simp only
  rw [if_neg (digitsOf_ne_nil _), digitsValue_digitsOf]
  by_cases hneg : i < 0
  · rw [if_pos hneg, if_pos rfl]
    exact congrArg some (by omega)
  · rw [if_neg hneg, if_neg (by simp)]
    exact congrArg some (by omega)

/-- Nothing in 64 bits is saturated. -/
theorem saturate_toInt (n : Int64) : saturate n.toInt = n := by
  have hlow := n.minValue_le_toInt
  have hhigh := n.toInt_le
  unfold saturate
  rw [Int.min_eq_right hhigh, Int.max_eq_right hlow, Int64.ofInt_toInt]

end AnswerKey.Number
