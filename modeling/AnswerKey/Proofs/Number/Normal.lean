import Mathlib

/-!
# Rounding in binary64

A number of the format binary64 that is neither subnormal nor too large has a mantissa of 53 bits.
It is what is packed for it (`Normal.unpack_pack`), and rounding leaves it alone
(`Normal.roundWithAccuracy_eq`).  A longer mantissa loses its last bits; rounding then adds one at
most, and if that makes the mantissa longer again, the exponent grows.
-/

namespace AnswerKey.Number

open Float.Model Float.Model.UnpackedFloat Float.Model.UnpackedFloat.ExtendedMantissa

variable {m r k : Nat} {e : Int} {a : Accuracy}

/-- A mantissa and an exponent of a number that is neither subnormal nor too large. -/
structure Normal (m : Nat) (e : Int) : Prop where
  lower : 2 ^ 52 ≤ m
  upper : m < 2 ^ 53
  exponent_lower : -1074 ≤ e
  exponent_upper : e ≤ 971

namespace Normal

theorem pos (h : Normal m e) : 0 < m :=
  Nat.lt_of_lt_of_le (by decide) h.lower

/-- The number itself. -/
def unpacked (h : Normal m e) : UnpackedFloat :=
  .finite .positive m e h.pos

theorem log2_eq (h : Normal m e) : m.log2 = 52 :=
  (Nat.log2_eq_iff h.pos.ne').2 ⟨h.lower, h.upper⟩

end Normal

/-- The leading bit, which is not stored, is put back. -/
theorem toNat_append_mantissa (hlower : 2 ^ 52 ≤ m) (hupper : m < 2 ^ 53) :
    (1#1 ++ BitVec.ofNat 52 m).toNat = m := by
  have hstored : (BitVec.ofNat 52 m).toNat = m - 2 ^ 52 := by
    rw [BitVec.toNat_ofNat, Nat.mod_eq_sub_mod hlower, Nat.mod_eq_of_lt (by omega)]
  have hlt : m - 2 ^ 52 < 2 ^ 52 := by omega
  have hlead : (1#1).toNat <<< 52 = 2 ^ 52 := rfl
  rw [BitVec.toNat_append, hstored, ← Nat.shiftLeft_add_eq_or_of_lt hlt, hlead]
  omega

namespace Normal

/-- The exponent as it is stored. -/
theorem toNat_biased (h : Normal m e) :
    (BitVec.ofNat 11 (e + 1075).toNat).toNat = (e + 1075).toNat := by
  have hupper := h.exponent_upper
  rw [BitVec.toNat_ofNat, Nat.mod_eq_of_lt]
  omega

theorem pack_eq (h : Normal m e) : UnpackedFloat.pack .binary64 h.unpacked =
    packComponents .binary64 .positive (BitVec.ofNat 11 (e + 1075).toNat) (BitVec.ofNat 52 m) := by
  have hlog : m.log2 + 1 = Format.binary64.mantissaBits := by
    rw [h.log2_eq]
    rfl
  have hbias : e + Format.binary64.exponentBias + Format.binary64.mantissaBitsWithoutImplicit =
      e + 1075 := by
    rw [Int.add_assoc]
    rfl
  have hroom : ¬ 2 ^ Format.binary64.exponentBits ≤ (e + 1075).toNat + 1 := by
    have hpow : 2 ^ Format.binary64.exponentBits = 2048 := rfl
    have hupper := h.exponent_upper
    omega
  unfold unpacked UnpackedFloat.pack
  simp only [hbias, hlog, hroom, if_true, if_false]

/-- A number is what is packed for it. -/
theorem unpack_pack (h : Normal m e) : (Float.Model.pack h.unpacked).unpack = h.unpacked := by
  have hstored := h.toNat_biased
  have hlower := h.exponent_lower
  have hupper := h.exponent_upper
  have hfull : BitVec.ofNat 11 (e + 1075).toNat ≠ -1#11 := by
    intro hfull
    have hones : (-1#11).toNat = 2047 := rfl
    rw [hfull] at hstored
    omega
  have hnone : BitVec.ofNat 11 (e + 1075).toNat ≠ 0#11 := by
    intro hnone
    have hzero : (0#11).toNat = 0 := rfl
    rw [hnone] at hstored
    omega
  have hbias : ((e + 1075).toNat : Int) - ((Format.binary64.exponentBias : Nat) + (52 : Nat)) =
      e := by
    have hconst : Format.binary64.exponentBias = 1023 := rfl
    omega
  change UnpackedFloat.unpack .binary64 (UnpackedFloat.pack .binary64 h.unpacked) = h.unpacked
  rw [h.pack_eq]
  unfold UnpackedFloat.unpack unpacked
  simp only [unpackMantissa_packComponents, unpackExponent_packComponents,
    unpackSign_packComponents, Sign.ofBitVec_toBitVec, hstored, hfull, hnone, if_false, hbias,
    toNat_append_mantissa h.lower h.upper]

end Normal

/-- A number with too large an exponent is packed as infinity. -/
theorem unpack_pack_of_large (hpos : 0 < m) (he : 971 < e) :
    (Float.Model.pack (.finite .positive m e hpos)).unpack = .infinity .positive := by
  have hfull : 2 ^ Format.binary64.exponentBits ≤ (e + Format.binary64.exponentBias +
      Format.binary64.mantissaBitsWithoutImplicit).toNat + 1 := by
    have hpow : 2 ^ Format.binary64.exponentBits = 2048 := rfl
    have hbias : e + Format.binary64.exponentBias + Format.binary64.mantissaBitsWithoutImplicit =
        e + 1075 := by
      rw [Int.add_assoc]
      rfl
    omega
  have hpack : UnpackedFloat.pack .binary64 (.finite .positive m e hpos) =
      packedInfinity .binary64 .positive := by
    unfold UnpackedFloat.pack
    simp only [hfull, if_true]
  change UnpackedFloat.unpack .binary64 (UnpackedFloat.pack .binary64 _) = _
  rw [hpack]
  rfl

/-! ## Rounding -/

/-- How far the mantissa is shifted so that 53 bits are left. -/
theorem shiftToTargetExponent_eq (hlog : m.log2 = 52 + k) (he : -1074 ≤ e + k) :
    shiftToTargetExponent .binary64 m e a = (ofMantissaAndAccuracy m a >>> k, e + k) := by
  have htarget : Format.binary64.targetExponent (totalExponent m e) = e + k := by
    have hbits : (Format.binary64.mantissaBits : Int) = 53 := rfl
    have hmin : Format.binary64.minExponent = -1074 := rfl
    rw [Format.targetExponent, totalExponent, hlog, hbits, hmin]
    omega
  have hshift : (e + k - e).toNat = k := by omega
  unfold shiftToTargetExponent shiftToExponent
  simp only [htarget, hshift]

/-- The mantissa fits after it has been rounded. -/
theorem roundWithAccuracy_eq_finite (hlog : m.log2 = 52 + k) (he : -1074 ≤ e + k)
    (hlower : 2 ^ 52 ≤ r) (hupper : r < 2 ^ 53)
    (hr : (ofMantissaAndAccuracy m a >>> k).roundedMantissa = r) :
    roundWithAccuracy .binary64 .positive m e a =
      .finite .positive r (e + k) (Nat.lt_of_lt_of_le (by decide) hlower) := by
  have hpos : 0 < r := Nat.lt_of_lt_of_le (by decide) hlower
  have hlog' : r.log2 = 52 := (Nat.log2_eq_iff hpos.ne').2 ⟨hlower, hupper⟩
  have hfirst := shiftToTargetExponent_eq (a := a) hlog he
  have hsecond : shiftToTargetExponent .binary64 r (e + k) .exact =
      (⟨r, false, false⟩, e + k) := by
    rw [shiftToTargetExponent_eq (k := 0) hlog' (by simpa using he)]
    simp only [Nat.cast_zero, Int.add_zero]
    rfl
  unfold roundWithAccuracy
  simp only [hfirst, hr, hsecond]
  rw [dif_neg hpos.ne']

/-- Rounding made the mantissa one bit longer. -/
theorem roundWithAccuracy_of_carry (hlog : m.log2 = 52 + k) (he : -1074 ≤ e + k)
    (hr : (ofMantissaAndAccuracy m a >>> k).roundedMantissa = 2 ^ 53) :
    roundWithAccuracy .binary64 .positive m e a =
      .finite .positive (2 ^ 52) (e + k + 1) (by decide) := by
  have hfirst := shiftToTargetExponent_eq (a := a) hlog he
  have hsecond : shiftToTargetExponent .binary64 (2 ^ 53) (e + k) .exact =
      (⟨2 ^ 52, false, false⟩, e + k + 1) := by
    rw [shiftToTargetExponent_eq (k := 1) (by decide) (by omega)]
    rfl
  unfold roundWithAccuracy
  simp only [hfirst, hr, hsecond]
  rw [dif_neg (by decide)]

/-- The mantissa and the exponent after rounding are those of a number. -/
theorem roundWithAccuracy_eq (hlog : m.log2 = 52 + k) (h : Normal r (e + k))
    (hr : (ofMantissaAndAccuracy m a >>> k).roundedMantissa = r) :
    roundWithAccuracy .binary64 .positive m e a = h.unpacked :=
  roundWithAccuracy_eq_finite hlog h.exponent_lower h.lower h.upper hr

/-- Nothing is rounded that fits. -/
theorem Normal.roundWithAccuracy_eq (h : Normal m e) :
    roundWithAccuracy .binary64 .positive m e .exact = h.unpacked := by
  have h' : Normal m (e + (0 : Nat)) := by simpa using h
  rw [Number.roundWithAccuracy_eq h.log2_eq h' rfl]
  simp [unpacked]

/-- Zeros at the end of a mantissa are shifted out. -/
theorem shiftRight_mul_pow (m k : Nat) :
    ofMantissaAndAccuracy (m * 2 ^ k) .exact >>> k = ⟨m, false, false⟩ := by
  change Nat.repeat shiftRightOne k ⟨m * 2 ^ k, false, false⟩ = ⟨m, false, false⟩
  induction k generalizing m with
  | zero => simp [Nat.repeat]
  | succ k ih =>
    have hpow : m * 2 ^ (k + 1) = 2 * m * 2 ^ k := by
      rw [Nat.pow_succ]
      ring
    rw [Nat.repeat, hpow, ih, shiftRightOne]
    simp

/-- Rounding adds at most one. -/
theorem roundedMantissa_mem (em : ExtendedMantissa) :
    em.mantissa ≤ em.roundedMantissa ∧ em.roundedMantissa ≤ em.mantissa + 1 := by
  obtain ⟨m, _ | _, _ | _⟩ := em <;>
    simp only [ExtendedMantissa.roundedMantissa, ExtendedMantissa.accuracy,
      Accuracy.roundToNearestEven] <;> omega

/-- Less than a half is dropped. -/
theorem roundedMantissa_of_roundBit {em : ExtendedMantissa} (h : em.roundBit = false) :
    em.roundedMantissa = em.mantissa := by
  obtain ⟨m, roundBit, stickyBit⟩ := em
  subst h
  cases stickyBit <;> rfl

theorem mantissa_ofMantissaAndAccuracy : (ofMantissaAndAccuracy m a).mantissa = m := by
  rcases a with _ | _ | _ | _ <;> rfl

/-- A shift divides the mantissa. -/
theorem mantissa_shiftRight (em : ExtendedMantissa) (k : Nat) :
    (em >>> k).mantissa = em.mantissa / 2 ^ k := by
  change (Nat.repeat shiftRightOne k em).mantissa = em.mantissa / 2 ^ k
  induction k with
  | zero => exact (Nat.div_one _).symm
  | succ k ih =>
    rw [Nat.repeat, shiftRightOne, ih, Nat.div_div_eq_div_mul, ← Nat.pow_succ]

/-- A mantissa of 53 bits or more keeps 53 of them. -/
theorem exists_roundWithAccuracy_of_long (hlog : m.log2 = 52 + k) (he : -1074 ≤ e + k) :
    ∃ (r : Nat) (e' : Int) (hpos : 0 < r), (2 ^ 52 ≤ r ∧ r < 2 ^ 53) ∧ -1074 ≤ e' ∧
      roundWithAccuracy .binary64 .positive m e a = .finite .positive r e' hpos := by
  have hne : m ≠ 0 := by
    rintro rfl
    rw [Nat.log2_zero] at hlog
    omega
  obtain ⟨hlower, hupper⟩ := (Nat.log2_eq_iff hne).1 hlog
  rw [Nat.pow_add] at hlower
  rw [Nat.add_right_comm, Nat.pow_add] at hupper
  obtain ⟨hge, hle⟩ := roundedMantissa_mem (ofMantissaAndAccuracy m a >>> k)
  rw [mantissa_shiftRight, mantissa_ofMantissaAndAccuracy] at hge hle
  have hquotient : 2 ^ 52 ≤ m / 2 ^ k := (Nat.le_div_iff_mul_le (Nat.two_pow_pos k)).2 hlower
  have hshort : m / 2 ^ k < 2 ^ 53 := (Nat.div_lt_iff_lt_mul (Nat.two_pow_pos k)).2 hupper
  by_cases hcarry : (ofMantissaAndAccuracy m a >>> k).roundedMantissa = 2 ^ 53
  · exact ⟨2 ^ 52, e + k + 1, by decide, by decide, by omega,
      roundWithAccuracy_of_carry hlog he hcarry⟩
  · exact ⟨_, e + k, by omega, by omega, he,
      roundWithAccuracy_eq_finite hlog he (by omega) (by omega) rfl⟩

/-- Rounding after one shift. -/
theorem roundedMantissa_shiftRightOne :
    m / 2 ≤ (ofMantissaAndAccuracy m a).shiftRightOne.roundedMantissa ∧
    (ofMantissaAndAccuracy m a).shiftRightOne.roundedMantissa ≤ (m + 1) / 2 := by
  have hmantissa : (ofMantissaAndAccuracy m a).shiftRightOne.mantissa = m / 2 := by
    rw [shiftRightOne, mantissa_ofMantissaAndAccuracy]
  obtain ⟨hlower, hupper⟩ := roundedMantissa_mem (ofMantissaAndAccuracy m a).shiftRightOne
  rw [hmantissa] at hlower hupper
  refine ⟨hlower, ?_⟩
  rcases Nat.mod_two_eq_zero_or_one m with heven | hodd
  · -- the bit that goes is no half, so there is nothing to round up
    have hbit : (ofMantissaAndAccuracy m a).shiftRightOne.roundBit = false := by
      rw [shiftRightOne, mantissa_ofMantissaAndAccuracy, heven]
      rfl
    rw [roundedMantissa_of_roundBit hbit, hmantissa]
    omega
  · omega

end AnswerKey.Number
