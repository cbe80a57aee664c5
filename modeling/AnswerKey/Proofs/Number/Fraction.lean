import AnswerKey.Proofs.Number.Normal

/-!
# Fractions of one

Natural numbers below 2 ^ 53 are told apart in the format binary64, and so are their quotients from
0 and from 1: a quotient is rounded to 1 or more only if it is 1 (`one_le_div_iff`), and to 0 or
less only if it is 0 (`div_le_zero_iff`).  A quotient just below 1 is the case in point: its mantissa
is filled with ones but for the last bit, so rounding up does not carry.  Larger numbers are rounded
themselves, some of them to infinity, but none to 0 (`zero_div_toFloat`).
-/

namespace AnswerKey.Number

open Float.Model Float.Model.UnpackedFloat Float.Model.UnpackedFloat.ExtendedMantissa

variable {m m₁ m₂ : Nat} {e e₁ e₂ : Int} {a : Accuracy}

/-! ## Natural numbers -/

/-- The number 1. -/
theorem normal_one : Normal (2 ^ 52) (-52) :=
  ⟨by decide, by decide, by decide, by decide⟩

/-- Multiplying by 1 changes nothing. -/
theorem Normal.mul_one (h : Normal m e) :
    UnpackedFloat.mul .binary64 h.unpacked normal_one.unpacked = h.unpacked := by
  have hlog : (m * 2 ^ 52).log2 = 52 + 52 := by
    refine (Nat.log2_eq_iff (by have := h.pos; omega)).2 ⟨?_, ?_⟩
    · have := h.lower; omega
    · have := h.upper; omega
  have h' : Normal m (e + -52 + (52 : Nat)) := by
    have hsame : e + -52 + (52 : Nat) = e := by omega
    rwa [hsame]
  change roundWithAccuracy .binary64 .positive (m * 2 ^ 52) (e + -52) .exact = _
  rw [Number.roundWithAccuracy_eq hlog h' (by rw [shiftRight_mul_pow]; rfl)]
  simp [unpacked]

/-- The mantissa of a natural number. -/
def mantissa (n : Nat) : Nat := n * 2 ^ (52 - n.log2)

/-- The exponent of a natural number. -/
def exponent (n : Nat) : Int := n.log2 - 52

/-- A number below 2⁵³ has a mantissa of 53 bits, filled up with zeros. -/
theorem normal_of_lt {n : Nat} (hpos : 0 < n) (hlt : n < 2 ^ 53) :
    Normal (mantissa n) (exponent n) := by
  have hlog : n.log2 < 53 := (Nat.log2_lt hpos.ne').2 hlt
  -- zeros fill the mantissa up to 53 bits
  have hsplit : 2 ^ n.log2 * 2 ^ (52 - n.log2) = 2 ^ 52 := by
    rw [← Nat.pow_add]
    congr 1
    omega
  have hlower : 2 ^ n.log2 ≤ n := Nat.log2_self_le hpos.ne'
  have hupper : n < 2 ^ n.log2 * 2 := by
    rw [← Nat.pow_succ]
    exact Nat.lt_log2_self
  have hshift : 0 < 2 ^ (52 - n.log2) := Nat.two_pow_pos _
  refine ⟨?_, ?_, ?_, ?_⟩
  · calc 2 ^ 52 = 2 ^ n.log2 * 2 ^ (52 - n.log2) := hsplit.symm
      _ ≤ n * 2 ^ (52 - n.log2) := Nat.mul_le_mul_right _ hlower
  · calc n * 2 ^ (52 - n.log2) < 2 ^ n.log2 * 2 * 2 ^ (52 - n.log2) :=
          Nat.mul_lt_mul_of_pos_right hupper hshift
      _ = 2 ^ n.log2 * 2 ^ (52 - n.log2) * 2 := by ring
      _ = 2 ^ 53 := by rw [hsplit]; rfl
  · unfold exponent; omega
  · unfold exponent; omega

/-- A number below 2⁵³ is converted exactly. -/
theorem ofNat_eq {n : Nat} (hpos : 0 < n) (hlt : n < 2 ^ 53) :
    UnpackedFloat.ofNat .binary64 n = (normal_of_lt hpos hlt).unpacked := by
  have hlog : n.log2 < 53 := (Nat.log2_lt hpos.ne').2 hlt
  have htarget : Format.binary64.targetExponent (totalExponent n 0) = exponent n := by
    have hbits : (Format.binary64.mantissaBits : Int) = 53 := rfl
    have hmin : Format.binary64.minExponent = -1074 := rfl
    rw [Format.targetExponent, totalExponent, hbits, hmin, exponent]
    omega
  have hshift : (0 - exponent n).toNat = 52 - n.log2 := by unfold exponent; omega
  have hexponent : (0 : Int) - ((52 - n.log2 : Nat) : Int) = exponent n := by unfold exponent; omega
  have hround : UnpackedFloat.ofNat .binary64 n = UnpackedFloat.round .binary64 .positive n 0 := by
    have hcompare : compare (n : Int) 0 = .gt := by
      rw [Int.compare_eq_gt]
      exact_mod_cast hpos
    unfold UnpackedFloat.ofNat UnpackedFloat.ofInt UnpackedFloat.normalize
    rw [hcompare]
    rfl
  rw [hround]
  unfold UnpackedFloat.round decreaseExponent
  simp only [htarget, hshift, hexponent, Nat.shiftLeft_eq]
  exact (normal_of_lt hpos hlt).roundWithAccuracy_eq

/-- What a number below 2⁵³ is as a float. -/
theorem unpack_toFloat {n : Nat} (hpos : 0 < n) (hlt : n < 2 ^ 53) :
    n.toFloat.toModel.unpack = (normal_of_lt hpos hlt).unpacked := by
  have hscientific : n.toFloat = n.toUInt64.toFloat * Float.ofBits 0x3FF0000000000000 := by
    change Float.ofScientific n false 0 = _
    unfold Float.ofScientific
    exact dif_pos ⟨hlt, by decide⟩
  have hwhole : n.toUInt64.toFloat.toModel.unpack = (normal_of_lt hpos hlt).unpacked := by
    have hnat : n.toUInt64.toNat = n := by
      exact UInt64.toNat_ofNat_of_lt (hlt.trans (by decide))
    change (Float.Model.pack (UnpackedFloat.ofNat .binary64 n.toUInt64.toNat)).unpack = _
    rw [hnat, ofNat_eq hpos hlt, Normal.unpack_pack]
  have hone : (Float.ofBits 0x3FF0000000000000).toModel.unpack = normal_one.unpacked := rfl
  rw [hscientific]
  change (Float.Model.pack (UnpackedFloat.mul .binary64 n.toUInt64.toFloat.toModel.unpack
    (Float.ofBits 0x3FF0000000000000).toModel.unpack)).unpack = _
  rw [hwhole, hone, Normal.mul_one, Normal.unpack_pack]

/-- A literal without an exponent is shifted so far that no bit is lost before rounding. -/
theorem ofScientific_eq {n : Nat} (hpos : 0 < n) : UnpackedFloat.ofScientific .binary64 n 0 =
    roundWithAccuracy .binary64 .positive (n * 2 ^ 53) (-53) .exact := by
  have hlong : ¬ (0 : Int) > 2 ^ Format.binary64.exponentBits := by
    have hpow : (2 : Int) ^ Format.binary64.exponentBits = 2048 := rfl
    omega
  have hshort : ¬ (0 : Int) < -(2 ^ Format.binary64.exponentBits + (n.log2 : Int)) := by
    have hpow : (2 : Int) ^ Format.binary64.exponentBits = 2048 := rfl
    omega
  unfold UnpackedFloat.ofScientific
  rw [dif_neg hpos.ne', if_neg hlong, if_neg hshort, if_pos (Int.le_refl 0)]
  simp only [Nat.shiftLeft_eq]
  show roundWithAccuracy .binary64 (.positive * .positive) (n * 2 ^ 53 * 10 ^ (0 : Int).toNat)
    (-53 + 0) .exact = _
  simp only [Int.toNat_zero, Nat.pow_zero, Nat.mul_one, Int.add_zero]
  rfl

theorem log2_mul_pow {n : Nat} (hpos : 0 < n) : (n * 2 ^ 53).log2 = 52 + (n.log2 + 1) := by
  have hne : n * 2 ^ 53 ≠ 0 := (Nat.mul_pos hpos (Nat.two_pow_pos 53)).ne'
  have hlower := Nat.mul_le_mul_right (2 ^ 53) (Nat.log2_self_le hpos.ne')
  have hupper := Nat.mul_lt_mul_of_pos_right (Nat.lt_log2_self (n := n)) (Nat.two_pow_pos 53)
  have hfirst : n.log2 + 53 = 52 + (n.log2 + 1) := by omega
  have hlast : n.log2 + 1 + 53 = 52 + (n.log2 + 1) + 1 := by omega
  rw [← Nat.pow_add, hfirst] at hlower
  rw [← Nat.pow_add, hlast] at hupper
  exact (Nat.log2_eq_iff hne).2 ⟨hlower, hupper⟩
/-- However large it is, a natural number is not rounded to zero. -/
theorem unpack_toFloat_cases {n : Nat} (hpos : 0 < n) :
    (∃ (r : Nat) (e : Int) (hr : 0 < r), n.toFloat.toModel.unpack = .finite .positive r e hr) ∨
      n.toFloat.toModel.unpack = .infinity .positive := by
  by_cases hlt : n < 2 ^ 53
  · exact .inl ⟨_, _, _, unpack_toFloat hpos hlt⟩
  · have hscientific : n.toFloat = ⟨Float.Model.ofScientific n 0⟩ := by
      change Float.ofScientific n false 0 = _
      unfold Float.ofScientific
      exact dif_neg fun h => hlt h.1
    obtain ⟨r, e, hr, ⟨hlower, hupper⟩, he, hrounded⟩ :=
      exists_roundWithAccuracy_of_long (a := .exact) (log2_mul_pow hpos)
        (show -1074 ≤ -53 + ((n.log2 + 1 : Nat) : Int) by omega)
    have hpack : n.toFloat.toModel = Float.Model.pack (.finite .positive r e hr) := by
      rw [hscientific, ← hrounded, ← ofScientific_eq hpos]
      rfl
    rw [hpack]
    by_cases hsmall : e ≤ 971
    · exact .inl ⟨r, e, hr, Normal.unpack_pack ⟨hlower, hupper, he, hsmall⟩⟩
    · exact .inr (unpack_pack_of_large hr (by omega))

/-! ## Quotients -/

/-- A quotient is that of the mantissas with 53 more bits, rounded. -/
theorem Normal.div_eq (h₁ : Normal m₁ e₁) (h₂ : Normal m₂ e₂) (he : -1021 ≤ e₁ - e₂) :
    UnpackedFloat.div .binary64 h₁.unpacked h₂.unpacked =
      roundWithAccuracy .binary64 .positive (m₁ * 2 ^ 53 / m₂) (e₁ - e₂ - 53)
        (accuracyOfFraction (m₁ * 2 ^ 53 % m₂) m₂) := by
  have htarget : min (e₁ - e₂) (Format.binary64.targetExponent
      (totalExponent m₁ e₁ - totalExponent m₂ e₂)) = e₁ - e₂ - 53 := by
    have hbits : (Format.binary64.mantissaBits : Int) = 53 := rfl
    have hmin : Format.binary64.minExponent = -1074 := rfl
    rw [Format.targetExponent, totalExponent, totalExponent, h₁.log2_eq, h₂.log2_eq, hbits, hmin]
    omega
  have hshift : (e₁ - e₂ - (e₁ - e₂ - 53)).toNat = 53 := by omega
  unfold unpacked UnpackedFloat.div divCore
  simp only [htarget, hshift, Nat.shiftLeft_eq]
  rfl

/-- A mantissa of 53 or 54 bits is rounded to a number below 1. -/
theorem exists_roundWithAccuracy {q : Nat} (hlower : 2 ^ 52 ≤ q) (hupper : q + 1 < 2 ^ 54)
    (he : -1074 ≤ e) (h : e ≤ -54 ∨ e = -53 ∧ q + 1 < 2 ^ 53) :
    ∃ (r : Nat) (e' : Int) (hr : Normal r e'), e' ≤ -53 ∧
      roundWithAccuracy .binary64 .positive q e a = hr.unpacked := by
  by_cases hshort : q < 2 ^ 53
  · have hlog : q.log2 = 52 + 0 := (Nat.log2_eq_iff (by omega)).2 ⟨hlower, hshort⟩
    obtain ⟨hge, hle⟩ := roundedMantissa_mem (ofMantissaAndAccuracy q a)
    rw [mantissa_ofMantissaAndAccuracy] at hge hle
    by_cases hcarry : (ofMantissaAndAccuracy q a).roundedMantissa = 2 ^ 53
    · have hr : Normal (2 ^ 52) (e + (0 : Nat) + 1) := ⟨by decide, by decide, by omega, by omega⟩
      exact ⟨_, _, hr, by omega, roundWithAccuracy_of_carry hlog (by omega) hcarry⟩
    · have hr : Normal (ofMantissaAndAccuracy q a).roundedMantissa (e + (0 : Nat)) :=
        ⟨by omega, by omega, by omega, by omega⟩
      exact ⟨_, _, hr, by omega, roundWithAccuracy_eq hlog hr rfl⟩
  · have hlog : q.log2 = 52 + 1 := (Nat.log2_eq_iff (by omega)).2 ⟨by omega, by omega⟩
    obtain ⟨hge, hle⟩ := roundedMantissa_shiftRightOne (m := q) (a := a)
    have hr : Normal (ofMantissaAndAccuracy q a).shiftRightOne.roundedMantissa (e + (1 : Nat)) :=
      ⟨by omega, by omega, by omega, by omega⟩
    exact ⟨_, _, hr, by omega, roundWithAccuracy_eq hlog hr rfl⟩

/-- A quotient of a smaller number by a larger one is rounded to something below one. -/
theorem Normal.exists_div_of_lt (h₁ : Normal m₁ e₁) (h₂ : Normal m₂ e₂) (he : -1021 ≤ e₁ - e₂)
    (h : e₁ < e₂ ∨ e₁ = e₂ ∧ m₁ < m₂) :
    ∃ (r : Nat) (e : Int) (hr : Normal r e), e ≤ -53 ∧
      UnpackedFloat.div .binary64 h₁.unpacked h₂.unpacked = hr.unpacked := by
  have hpos := h₂.pos
  have hlower₁ := h₁.lower
  have hupper₁ := h₁.upper
  have hlower₂ := h₂.lower
  have hupper₂ := h₂.upper
  -- the quotient of the mantissas has 53 or 54 bits before it is rounded
  have hlower : 2 ^ 52 ≤ m₁ * 2 ^ 53 / m₂ := by
    rw [Nat.le_div_iff_mul_le hpos]
    omega
  have hupper : m₁ * 2 ^ 53 / m₂ < 2 ^ 54 - 1 := by
    rw [Nat.div_lt_iff_lt_mul hpos]
    omega
  have hbelow : e₁ = e₂ → m₁ * 2 ^ 53 / m₂ < 2 ^ 53 - 1 := by
    intro hsame
    rw [Nat.div_lt_iff_lt_mul hpos]
    omega
  rw [h₁.div_eq h₂ he]
  exact exists_roundWithAccuracy hlower (by omega) (by omega) (by omega)

/-- A number divided by itself is one. -/
theorem Normal.div_self (h : Normal m e) :
    UnpackedFloat.div .binary64 h.unpacked h.unpacked = normal_one.unpacked := by
  have hquotient : m * 2 ^ 53 / m = 2 ^ 53 := Nat.mul_div_cancel_left _ h.pos
  have hexact : accuracyOfFraction (m * 2 ^ 53 % m) m = .exact := by
    rw [Nat.mul_mod_right]
    rfl
  have hexponent : e - e - 53 = -53 := by omega
  rw [h.div_eq h (by omega), hquotient, hexact, hexponent]
  rfl

theorem unpack_div (x y : Float) : (x / y).toModel.unpack =
    (Float.Model.pack (UnpackedFloat.div .binary64 x.toModel.unpack y.toModel.unpack)).unpack :=
  rfl

/-- Nothing divided by something is nothing. -/
theorem zero_div_toFloat {n : Nat} (hpos : 0 < n) : (0 : Nat).toFloat / n.toFloat = 0.0 := by
  have hzero : (0 : Nat).toFloat.toModel.unpack = .zero .positive := rfl
  have hdiv : UnpackedFloat.div .binary64 (.zero .positive) n.toFloat.toModel.unpack =
      .zero .positive := by
    rcases unpack_toFloat_cases hpos with ⟨r, e, hr, hn⟩ | hn <;> rw [hn] <;> rfl
  have hquotient : (0 : Nat).toFloat / n.toFloat = ⟨Float.Model.pack (UnpackedFloat.div .binary64
      (0 : Nat).toFloat.toModel.unpack n.toFloat.toModel.unpack)⟩ := rfl
  rw [hquotient, hzero, hdiv]
  rfl

theorem unpack_zero_div {n : Nat} (hpos : 0 < n) :
    ((0 : Nat).toFloat / n.toFloat).toModel.unpack = .zero .positive := by
  rw [zero_div_toFloat hpos]
  rfl

theorem unpack_div_self {n : Nat} (hpos : 0 < n) (hlt : n < 2 ^ 53) :
    (n.toFloat / n.toFloat).toModel.unpack = normal_one.unpacked := by
  rw [unpack_div, unpack_toFloat hpos hlt, Normal.div_self, Normal.unpack_pack]

/-- A proper fraction is a positive float below one. -/
theorem unpack_div_of_lt {a n : Nat} (ha : 0 < a) (han : a < n) (hlt : n < 2 ^ 53) :
    ∃ (r : Nat) (e : Int) (hr : Normal r e), e ≤ -53 ∧
      (a.toFloat / n.toFloat).toModel.unpack = hr.unpacked := by
  have hlog : a.log2 ≤ n.log2 :=
    (Nat.le_log2 (by omega)).2 ((Nat.log2_self_le ha.ne').trans han.le)
  have hsmall : n.log2 < 53 := (Nat.log2_lt (by omega)).2 hlt
  -- the smaller number has fewer bits, or as many and a smaller mantissa
  have hless : exponent a < exponent n ∨ exponent a = exponent n ∧ mantissa a < mantissa n := by
    rcases Nat.lt_or_eq_of_le hlog with hlog | hlog
    · left
      unfold exponent
      omega
    · right
      unfold exponent mantissa
      rw [hlog]
      exact ⟨rfl, Nat.mul_lt_mul_of_pos_right han (Nat.two_pow_pos _)⟩
  have hrange : -1021 ≤ exponent a - exponent n := by unfold exponent; omega
  obtain ⟨r, e, hr, he, hdiv⟩ := (normal_of_lt ha (han.trans hlt)).exists_div_of_lt
    (normal_of_lt (ha.trans han) hlt) hrange hless
  refine ⟨r, e, hr, he, ?_⟩
  rw [unpack_div, unpack_toFloat ha (han.trans hlt), unpack_toFloat (ha.trans han) hlt, hdiv,
    Normal.unpack_pack]

/-! ## Comparing -/

theorem le_iff {x y : Float} :
    x ≤ y ↔ UnpackedFloat.le x.toModel.unpack y.toModel.unpack = true :=
  decide_eq_true_iff

theorem unpack_one : (1.0 : Float).toModel.unpack = normal_one.unpacked := rfl

theorem unpack_zero : (0.0 : Float).toModel.unpack = .zero .positive := rfl

/-- No number is both at least 1 and at most 0. -/
theorem not_one_le_and_le_zero (x : Float) : ¬ (1.0 ≤ x ∧ x ≤ 0.0) := by
  rw [le_iff, le_iff, unpack_one, unpack_zero]
  rcases x.toModel.unpack with ⟨_ | _⟩ | _ | s | ⟨_ | _, m, e, hm⟩ <;>
    simp [Normal.unpacked, UnpackedFloat.le, UnpackedFloat.compare]

/-- A mantissa of 53 bits is below one if it is scaled down by as many bits or more. -/
theorem Normal.not_one_le (h : Normal m e) (he : e ≤ -53) :
    ¬ UnpackedFloat.le normal_one.unpacked h.unpacked = true := by
  have hexponent : compare (-52) e = .gt := by
    rw [Int.compare_eq_gt]
    omega
  simp [unpacked, UnpackedFloat.le, UnpackedFloat.compare, hexponent]

/-- A normal number is positive. -/
theorem Normal.not_le_zero (h : Normal m e) :
    ¬ UnpackedFloat.le h.unpacked (.zero .positive) = true := by
  simp [unpacked, UnpackedFloat.le, UnpackedFloat.compare]

/-- Of the quotients of small numbers, only the one of equal numbers is rounded to 1 or more. -/
theorem one_le_div_iff {a n : Nat} (hle : a ≤ n) (hpos : 0 < n) (hlt : n < 2 ^ 53) :
    1.0 ≤ a.toFloat / n.toFloat ↔ a = n := by
  rw [le_iff, unpack_one]
  rcases Nat.eq_zero_or_pos a with rfl | ha
  · rw [unpack_zero_div hpos]
    exact iff_of_false (by decide) hpos.ne
  · rcases Nat.lt_or_eq_of_le hle with han | rfl
    · obtain ⟨r, e, hr, he, hdiv⟩ := unpack_div_of_lt ha han hlt
      rw [hdiv]
      exact iff_of_false (hr.not_one_le he) han.ne
    · rw [unpack_div_self hpos hlt]
      exact iff_of_true (by decide) rfl

/-- Of the quotients of small numbers, only the one of zero is rounded to 0 or less. -/
theorem div_le_zero_iff {a n : Nat} (hle : a ≤ n) (hpos : 0 < n) (hlt : n < 2 ^ 53) :
    a.toFloat / n.toFloat ≤ 0.0 ↔ a = 0 := by
  rw [le_iff, unpack_zero]
  rcases Nat.eq_zero_or_pos a with rfl | ha
  · rw [unpack_zero_div hpos]
    exact iff_of_true (by decide) rfl
  · rcases Nat.lt_or_eq_of_le hle with han | rfl
    · obtain ⟨r, e, hr, -, hdiv⟩ := unpack_div_of_lt ha han hlt
      rw [hdiv]
      exact iff_of_false hr.not_le_zero ha.ne'
    · rw [unpack_div_self hpos hlt]
      exact iff_of_false normal_one.not_le_zero ha.ne'

end AnswerKey.Number
