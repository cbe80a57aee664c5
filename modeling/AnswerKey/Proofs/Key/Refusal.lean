import AnswerKey.Proofs.Key.WellFormed

/-!
# Why a text is no key

A text in which no block ends is refused at once.  Any other text that is refused begins with blocks
that are a key by themselves and a percent sign behind them; no digit follows the sign, or a weight
that is too large, or a weight behind which no block ends.  What stands behind some blocks has no
part in how they are read, so the blocks in front of an error are read as if they stood alone, and
the offset of the error is what they take up.
-/

namespace AnswerKey

open Text

/-! ## Brackets -/

namespace Bracket

variable {α : Type} {d : Delimiter α} {a : α} {t before rest : Text}

/-- What is found in a text is found with anything else behind it, too. -/
theorem ClosesFirst.exists_find?_append (hd : ClosesFirst d)
    (h : d.find? t = some (before, a, rest)) :
    ∃ front, t = front ++ rest ∧ ∀ more, d.find? (front ++ more) = some (before, a, more) := by
  have hbefore : d.find? before = none := hd.isLocal.find?_before h
  obtain ⟨tail, rfl, hread, -⟩ := Delimiter.find?_eq_some h
  obtain ⟨inner, -, -, rfl, hmore⟩ := hd hread
  refine ⟨before ++ ']' :: ']' :: inner, by simp, fun more => ?_⟩
  have hfound : d.find? (']' :: ']' :: (inner ++ more)) = some ([], a, more) :=
    Delimiter.find?_cons_of_some (hmore more)
  rw [List.append_assoc, List.cons_append, List.cons_append, hd.find?_append hbefore, hfound]
  simp [Delimiter.behind]

end Bracket

namespace Key

open AnswerKey.Bracket

variable {total n offset : Nat} {percent p next : UInt32} {e : KeyError}
  {t u w body letters after sign rest digits : Text}

/-! ## Blocks in front of something -/

theorem ne_nil_of_remaining (h : (readBlocks n p t).remaining = .ok rest) : t ≠ [] := by
  rintro rfl
  rw [readBlocks_of_find?_eq_none rfl] at h
  cases h

/-- Blocks with nothing but padding behind them are read in the same way wherever they stand, and
then what follows them is read. -/
theorem readBlocks_append (h : (readBlocks n p u).remaining = .ok []) (total : Nat)
    (percent : UInt32) (w : Text) :
    readBlocks total percent (u ++ w) =
      ⟨(readBlocks total percent u).texts ++ (readOn total w).texts,
        (readOn total w).remaining⟩ := by
  fun_induction readBlocks n p u generalizing percent with
  | case1 p t hfind => cases h
  | case2 p t body letters after hfind block sign hafter e hweight => cases h
  | case3 p t body letters after hfind block sign hafter next rest hweight more ih =>
    obtain ⟨digits, rfl, hdigits, hsmall, rfl⟩ := readWeight_eq_ok_iff.1 hweight
    have hlonger : IsWeight digits (rest ++ w) := hdigits.append (ne_nil_of_remaining h) w
    have hafter' : trimStart (after ++ w) = '%' :: (digits ++ (rest ++ w)) := by
      rw [trimStart_append_of_cons hafter, List.append_assoc]
    obtain ⟨front, rfl, hfront⟩ := closesFirst_closing.exists_find?_append hfind
    rw [List.append_assoc, readBlocks_of_find? (hfront _), readBlocks_of_find? hfind,
      readOn_of_weight hafter' (hlonger.readWeight_of_lt hsmall _),
      readOn_of_weight hafter (hdigits.readWeight_of_lt hsmall _), ih h]
    rfl
  | case4 p t body letters after hfind block hlast =>
    -- behind the last block the padding runs on into the other text
    have hnil : trimStart after = [] := Except.ok.inj h
    have hon : ∀ total, readOn total (after ++ w) = readOn total w := by
      intro total
      unfold readOn
      rw [trimStart_append_of_nil hnil]
    obtain ⟨front, rfl, hfront⟩ := closesFirst_closing.exists_find?_append hfind
    rw [List.append_assoc, readBlocks_of_find? (hfront _), readBlocks_of_find? hfind,
      readOn_of_no_sign hlast, hon]
    rfl

/-- A text that is made of blocks, with nothing but padding behind the last one. -/
def IsBlocks (t : Text) : Prop :=
  ∀ total percent, (readBlocks total percent t).remaining = .ok []

/-- How far blocks go does not depend on where they stand. -/
theorem isBlocks_of_remaining (h : (readBlocks n p u).remaining = .ok []) : IsBlocks u := by
  intro total percent
  have happend := readBlocks_append h total percent []
  rw [List.append_nil] at happend
  rw [happend]
  rfl

/-- A block, the padding behind it and a percent sign. -/
theorem exists_isBlocks (hfind : closing.find? t = some (body, letters, after))
    (hafter : trimStart after = '%' :: sign) : ∃ u, IsBlocks u ∧ t = u ++ '%' :: sign := by
  obtain ⟨front, rfl, hfront⟩ := closesFirst_closing.exists_find?_append hfind
  have hpadding : trimStart (after.takeWhile isPadding) = [] := by
    unfold trimStart
    rw [List.dropWhile_eq_nil_iff]
    exact fun c hc => List.mem_takeWhile_imp hc
  refine ⟨front ++ after.takeWhile isPadding, fun total percent => ?_, ?_⟩
  · rw [readBlocks_of_find? (hfront _), readOn_of_no_sign (by simp [hpadding]), hpadding]
  · rw [List.append_assoc, ← hafter, trimStart, List.takeWhile_append_dropWhile]

/-- Blocks, a weight and blocks again. -/
theorem IsBlocks.append (hu : IsBlocks u) (hdigits : IsWeight digits rest)
    (hsmall : Number.digitsValue digits < UInt32.size) (hw : IsBlocks w) (hrest : w <+: rest) :
    IsBlocks (u ++ '%' :: (digits ++ w)) := by
  intro total percent
  have hne : w ≠ [] := ne_nil_of_remaining (hw 0 0)
  have hdigits' : IsWeight digits w := by
    obtain ⟨v, rfl⟩ := hrest
    obtain ⟨c, w, rfl⟩ := List.exists_cons_of_ne_nil hne
    exact ⟨hdigits.ne_nil, hdigits.isDigit, hdigits.rest_head⟩
  rw [readBlocks_append (hu 0 0),
    readOn_of_weight (trimStart_cons rfl _) (hdigits'.readWeight_of_lt hsmall _)]
  exact hw _ _

/-! ## Where reading fails -/

/-- What is wrong behind a percent sign at an offset. -/
inductive FailsBehind (offset : Nat) : Text → KeyError → Prop where
  | noWeight {rest : Text} : (∀ c ∈ rest.head?, c.isDigit = false) →
      FailsBehind offset rest (.missingWeight offset)
  | largeWeight {digits rest : Text} : IsWeight digits rest →
      UInt32.size ≤ Number.digitsValue digits →
        FailsBehind offset (digits ++ rest) (.invalidWeight digits)
  | noBlock {digits rest : Text} : IsWeight digits rest →
      Number.digitsValue digits < UInt32.size → ¬ HasClosing rest →
        FailsBehind offset (digits ++ rest)
          (.missingDelimiter (offset + byteSize ('%' :: digits)))

theorem failsBehind_of_readWeight (h : readWeight offset t = .error e) : FailsBehind offset t e := by
  rcases no_digit_or_isWeight t with hno | ⟨digits, rest, rfl, hdigits⟩
  · rw [readWeight_of_no_digit hno] at h
    cases h
    exact .noWeight hno
  · rw [hdigits.readWeight] at h
    split at h
    · cases h
    · next hlarge =>
      cases h
      exact .largeWeight hdigits (not_lt.1 hlarge)

/-- Reading fails where no block ends any more, or behind a percent sign that blocks precede. -/
theorem exists_of_remaining_eq_error (htotal : byteSize t ≤ total)
    (h : (readBlocks total percent t).remaining = .error e) :
    (¬ HasClosing t ∧ e = .missingDelimiter (total - byteSize t)) ∨
      ∃ u sign, t = u ++ '%' :: sign ∧ IsBlocks u ∧
        FailsBehind (total - byteSize ('%' :: sign)) sign e := by
  fun_induction readBlocks total percent t with
  | case1 percent t hfind => exact .inl ⟨find?_closing_eq_none_iff.1 hfind, (Except.error.inj h).symm⟩
  | case2 percent t body letters after hfind block sign hafter e' hweight =>
    obtain ⟨u, hu, rfl⟩ := exists_isBlocks hfind hafter
    -- the weight behind the block is refused
    cases h
    exact .inr ⟨u, sign, rfl, hu, failsBehind_of_readWeight hweight⟩
  | case3 percent t body letters after hfind block sign hafter next rest hweight more ih =>
    obtain ⟨u, hu, rfl⟩ := exists_isBlocks hfind hafter
    -- the weight is read, and what is wrong stands further on
    obtain ⟨digits, rfl, hdigits, hsmall, -⟩ := readWeight_eq_ok_iff.1 hweight
    have hsize : byteSize ('%' :: (digits ++ rest)) = byteSize ('%' :: digits) + byteSize rest :=
      byteSize_append ('%' :: digits) rest
    rw [byteSize_append] at htotal
    rcases ih (by omega) h with ⟨hnone, rfl⟩ | ⟨w, sign', rfl, hw, hfails⟩
    · refine .inr ⟨u, digits ++ rest, rfl, hu, ?_⟩
      have hoffset : total - byteSize rest =
          total - byteSize ('%' :: (digits ++ rest)) + byteSize ('%' :: digits) := by omega
      rw [hoffset]
      exact .noBlock hdigits hsmall hnone
    · refine .inr ⟨u ++ '%' :: (digits ++ w), sign', by simp, ?_, hfails⟩
      exact hu.append hdigits hsmall hw (List.prefix_append w _)
  | case4 percent t body letters after hfind block hlast => cases h

/-- Where something is wrong behind the percent sign that blocks precede, reading fails with it. -/
theorem remaining_of_failsBehind (hu : IsBlocks u)
    (h : FailsBehind (total - byteSize ('%' :: sign)) sign e) (htotal : byteSize ('%' :: sign) ≤ total) :
    (readBlocks total percent (u ++ '%' :: sign)).remaining = .error e := by
  have hafter : trimStart ('%' :: sign) = '%' :: sign := trimStart_cons rfl sign
  rw [readBlocks_append (hu 0 0)]
  generalize hoffset : total - byteSize ('%' :: sign) = offset at h
  cases h with
  | noWeight hno =>
    have hweight := readWeight_of_no_digit hno offset
    rw [← hoffset] at hweight
    rw [readOn_of_error hafter hweight, hoffset]
  | largeWeight hdigits hlarge =>
    rw [readOn_of_error hafter (by rw [hdigits.readWeight, if_neg (not_lt.2 hlarge)])]
  | @noBlock digits rest hdigits hsmall hnone =>
    have hsize : byteSize ('%' :: (digits ++ rest)) = byteSize ('%' :: digits) + byteSize rest :=
      byteSize_append ('%' :: digits) rest
    have hstart : total - byteSize rest = offset + byteSize ('%' :: digits) := by omega
    rw [readOn_of_weight hafter (hdigits.readWeight_of_lt hsmall _),
      readBlocks_of_find?_eq_none (find?_closing_eq_none_iff.2 hnone), hstart]

/-! ## Texts that are refused -/

/-- A text that is a key without settings: nothing but padding stands behind its last block. -/
def IsBare (t : Text) : Prop :=
  (∃ key, read t = .ok key) ∧ (blocksOf t).remaining = .ok []

/-- The texts without carriage returns that are no keys, each with the reason. -/
inductive Refused : Text → KeyError → Prop where
  | noBlock {t : Text} : ¬ HasClosing t → Refused t (.missingDelimiter 0)
  | behind {u sign : Text} {e : KeyError} : IsBare u → FailsBehind (byteSize u) sign e →
      Refused (u ++ '%' :: sign) e

theorem isBare_iff (h : '\r' ∉ t) : IsBare t ↔ IsBlocks t := by
  have hblocks : blocksOf t = readBlocks (byteSize t) firstPercent t := by
    unfold blocksOf
    rw [withoutReturns_of_not_mem h]
  constructor
  · rintro ⟨-, hremaining⟩
    rw [hblocks] at hremaining
    exact isBlocks_of_remaining hremaining
  · intro hall
    have hremaining : (blocksOf t).remaining = .ok [] := by
      rw [hblocks]
      exact hall _ _
    exact ⟨⟨_, read_of_remaining hremaining⟩, hremaining⟩

/-- A text is refused for a reason that can be read off it, and every text for which there is such
a reason is refused for it. -/
theorem read_eq_error_iff_refused (text : Text) (e : KeyError) :
    read text = .error e ↔ Refused (withoutReturns text) e := by
  -- the text in front of an error is read as a key itself, and has no returns to lose
  have hreturn : '\r' ∉ withoutReturns text := by simp [withoutReturns]
  rw [read_eq_error_iff]
  show (readBlocks (byteSize (withoutReturns text)) firstPercent (withoutReturns text)).remaining =
    .error e ↔ _
  generalize withoutReturns text = t at hreturn
  constructor
  · intro h
    rcases exists_of_remaining_eq_error le_rfl h with ⟨hnone, rfl⟩ | ⟨u, sign, rfl, hu, hfails⟩
    · rw [Nat.sub_self]
      exact .noBlock hnone
    · have hbare : IsBare u := (isBare_iff fun hr => hreturn (by simp [hr])).2 hu
      rw [byteSize_append, Nat.add_sub_cancel_right] at hfails
      exact .behind hbare hfails
  · rintro (hnone | ⟨hbare, hfails⟩)
    · rw [readBlocks_of_find?_eq_none (find?_closing_eq_none_iff.2 hnone), Nat.sub_self]
    · next u sign =>
      have hu : IsBlocks u := (isBare_iff fun hr => hreturn (by simp [hr])).1 hbare
      refine remaining_of_failsBehind hu ?_ ?_
      · rwa [byteSize_append, Nat.add_sub_cancel_right]
      · rw [byteSize_append]
        exact Nat.le_add_left _ _

/-- An offset counts bytes, and carriage returns do not count. -/
example : (blocksOf "[[é]]//\r\n%7[[b]]".toList).remaining = .error (.missingDelimiter 11) := by
  decide +kernel

end Key
end AnswerKey
