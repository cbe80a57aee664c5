import AnswerKey.Key.Reader
import AnswerKey.Proofs.Key.Bracket
import AnswerKey.Proofs.Number.Literal

/-!
# Reading blocks one by one

What is read of a text with the first block in front, by whether a percent sign follows it.
-/

namespace AnswerKey.Key

open Text

variable {total offset : Nat} {percent next : UInt32} {e : KeyError}
  {t body letters after rest sign digits : Text}

/-! ## Carriage returns -/

theorem withoutReturns_append (s t : Text) :
    withoutReturns (s ++ t) = withoutReturns s ++ withoutReturns t :=
  List.filter_append s t

theorem withoutReturns_cons {c : Char} (hc : c ≠ '\r') (t : Text) :
    withoutReturns (c :: t) = c :: withoutReturns t :=
  List.filter_cons_of_pos (decide_eq_true hc)

theorem withoutReturns_of_not_mem (h : '\r' ∉ t) : withoutReturns t = t := by
  refine List.filter_eq_self.2 fun c hc => decide_eq_true ?_
  intro he
  exact h (he ▸ hc)

theorem mem_of_mem_withoutReturns {c : Char} (h : c ∈ withoutReturns t) : c ∈ t :=
  (List.mem_filter.1 h).1

/-- What a text is read as does not depend on its carriage returns. -/
theorem read_congr {s : Text} (h : withoutReturns s = withoutReturns t) : read s = read t := by
  unfold read blocksOf
  rw [h]

/-! ## Weights -/

/-- A weight as it stands in a text: a run of digits that goes on as long as there are any. -/
structure IsWeight (digits rest : Text) : Prop where
  ne_nil : digits ≠ []
  isDigit : ∀ c ∈ digits, c.isDigit = true
  rest_head : ∀ c ∈ rest.head?, c.isDigit = false

/-- A weight that has ended stays what it is whatever follows. -/
theorem IsWeight.append (h : IsWeight digits rest) (hrest : rest ≠ []) (w : Text) :
    IsWeight digits (rest ++ w) := by
  obtain ⟨d, rest, rfl⟩ := List.exists_cons_of_ne_nil hrest
  exact ⟨h.ne_nil, h.isDigit, h.rest_head⟩

/-- No digit comes first in a text, or a weight does. -/
theorem no_digit_or_isWeight (t : Text) : (∀ c ∈ t.head?, c.isDigit = false) ∨
    ∃ digits rest, t = digits ++ rest ∧ IsWeight digits rest := by
  obtain ⟨digits, rest, rfl, hdigits, hrest⟩ := Number.exists_digits_append t
  by_cases hnil : digits = []
  · subst hnil
    exact .inl hrest
  · exact .inr ⟨digits, rest, rfl, hnil, hdigits, hrest⟩

/-- A weight is read if it fits into 32 bits, and refused with its digits if not. -/
theorem IsWeight.readWeight (h : IsWeight digits rest) (offset : Nat) :
    readWeight offset (digits ++ rest) =
      if Number.digitsValue digits < UInt32.size then
        .ok (UInt32.ofNat (Number.digitsValue digits), rest)
      else .error (.invalidWeight digits) := by
  unfold Key.readWeight
  rw [Number.spanDigits_run h.isDigit h.rest_head]
  simp only
  rw [if_neg h.ne_nil]

theorem IsWeight.readWeight_of_lt (h : IsWeight digits rest)
    (hsmall : Number.digitsValue digits < UInt32.size) (offset : Nat) :
    Key.readWeight offset (digits ++ rest) =
      .ok (UInt32.ofNat (Number.digitsValue digits), rest) := by
  rw [h.readWeight, if_pos hsmall]

/-- Where no digit follows the sign, the failure names the place of the sign. -/
theorem readWeight_of_no_digit (h : ∀ c ∈ t.head?, c.isDigit = false) (offset : Nat) :
    readWeight offset t = .error (.missingWeight offset) := by
  have hspan : Number.spanDigits ([] ++ t) = ([], t) :=
    Number.spanDigits_run (List.forall_mem_nil _) h
  rw [List.nil_append] at hspan
  unfold readWeight
  rw [hspan]
  rfl

/-- What is read of a weight and left behind it, said of the text alone. -/
theorem readWeight_eq_ok_iff : readWeight offset t = .ok (next, rest) ↔
    ∃ digits, t = digits ++ rest ∧ IsWeight digits rest ∧
      Number.digitsValue digits < UInt32.size ∧
        next = UInt32.ofNat (Number.digitsValue digits) := by
  constructor
  · intro h
    rcases no_digit_or_isWeight t with hno | ⟨digits, rest', rfl, hweight⟩
    · rw [readWeight_of_no_digit hno] at h
      cases h
    · rw [hweight.readWeight] at h
      split at h
      · next hsmall =>
        cases h
        exact ⟨digits, rfl, hweight, hsmall, rfl⟩
      · cases h
  · rintro ⟨digits, rfl, hweight, hsmall, rfl⟩
    exact hweight.readWeight_of_lt hsmall offset

/-- A weight in decimal digits is read back. -/
theorem readWeight_digitsOf (hrest : ∀ c ∈ rest.head?, c.isDigit = false) :
    readWeight offset (Number.digitsOf percent.toNat ++ rest) = .ok (percent, rest) := by
  refine readWeight_eq_ok_iff.2 ⟨_, rfl, ⟨Number.digitsOf_ne_nil _,
    fun _ => Number.isDigit_of_mem_digitsOf, hrest⟩, ?_, ?_⟩
  · rw [Number.digitsValue_digitsOf]
    exact percent.toNat_lt
  · rw [Number.digitsValue_digitsOf, UInt32.ofNat_toNat]

/-! ## Blocks -/

/-- What is read behind a block, where `after` is the end of a text of `total` bytes. -/
def readOn (total : Nat) (after : Text) : Blocks :=
  match trimStart after with
  | '%' :: sign =>
    match readWeight (total - byteSize ('%' :: sign)) sign with
    | .error e => ⟨[], .error e⟩
    | .ok (percent, rest) => readBlocks total percent rest
  | rest => ⟨[], .ok rest⟩

/-- A delimiter ends the block, and reading goes on behind it. -/
theorem readBlocks_of_find? (h : Bracket.closing.find? t = some (body, letters, after)) :
    readBlocks total percent t = ⟨⟨percent, letters, readPatterns body⟩ ::
      (readOn total after).texts, (readOn total after).remaining⟩ := by
  rw [readBlocks, readOn]
  split
  · next hnone =>
    rw [h] at hnone
    cases hnone
  · next hfind =>
    rw [h] at hfind
    cases hfind
    split
    · next hafter =>
      rw [hafter]
      simp only
      split <;> next hweight => rw [hweight]
    · next hno =>
      split
      · next hafter => exact (hno _ hafter).elim
      · rfl

/-- Without a delimiter there is no block, and the failure tells where it was wanted. -/
theorem readBlocks_of_find?_eq_none (h : Bracket.closing.find? t = none) :
    readBlocks total percent t = ⟨[], .error (.missingDelimiter (total - byteSize t))⟩ := by
  rw [readBlocks]
  split
  · rfl
  · next hfind =>
    rw [h] at hfind
    cases hfind

theorem readOn_of_no_sign (h : ∀ sign, trimStart after ≠ '%' :: sign) :
    readOn total after = ⟨[], .ok (trimStart after)⟩ := by
  unfold readOn
  split
  · next hafter => exact (h _ hafter).elim
  · rfl

theorem readOn_of_error (hafter : trimStart after = '%' :: sign)
    (hweight : readWeight (total - byteSize ('%' :: sign)) sign = .error e) :
    readOn total after = ⟨[], .error e⟩ := by
  unfold readOn
  rw [hafter]
  simp only
  rw [hweight]

/-- A weight is followed by its block. -/
theorem readOn_of_weight (hafter : trimStart after = '%' :: sign)
    (hweight : readWeight (total - byteSize ('%' :: sign)) sign = .ok (next, rest)) :
    readOn total after = readBlocks total next rest := by
  unfold readOn
  rw [hafter]
  simp only
  rw [hweight]

/-- The last block of a text. -/
theorem readBlocks_of_last (hfind : Bracket.closing.find? t = some (body, letters, after))
    (hafter : trimStart after = rest) (hrest : ∀ sign, rest ≠ '%' :: sign) :
    readBlocks total percent t = ⟨[⟨percent, letters, readPatterns body⟩], .ok rest⟩ := by
  subst hafter
  rw [readBlocks_of_find? hfind, readOn_of_no_sign hrest]

/-- A block that another one follows. -/
theorem readBlocks_of_more (hfind : Bracket.closing.find? t = some (body, letters, after))
    (hafter : trimStart after = '%' :: sign)
    (hweight : ∀ offset, readWeight offset sign = .ok (next, rest)) :
    readBlocks total percent t =
      ⟨⟨percent, letters, readPatterns body⟩ :: (readBlocks total next rest).texts,
        (readBlocks total next rest).remaining⟩ := by
  rw [readBlocks_of_find? hfind, readOn_of_weight hafter (hweight _)]

/-! ## Keys -/

/-- A key is read where its blocks are, with the settings from what remains. -/
theorem read_of_remaining (h : (blocksOf t).remaining = .ok rest) :
    read t = .ok ⟨(blocksOf t).texts.map BlockText.block, Settings.read (trim rest)⟩ := by
  unfold read
  simp only
  rw [h]

/-- Only the blocks can be refused. -/
theorem read_eq_error_iff : read t = .error e ↔ (blocksOf t).remaining = .error e := by
  cases h : (blocksOf t).remaining with
  | ok rest => simp [read_of_remaining h]
  | error e' =>
    unfold read
    simp only
    rw [h, Except.error.injEq, Except.error.injEq]

end AnswerKey.Key
