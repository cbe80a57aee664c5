import AnswerKey.Text
import Mathlib.Tactic.SplitIfs

/-!
# The order of texts

Texts are compared character by character.  UTF-8 keeps the order of characters, and no character is
written as the beginning of another one, so it is the order of the bytes as well (`bytes_lt_bytes`).
-/

namespace AnswerKey.Text

variable {c d : Char} {s t : Text}

/-- The bytes of a text in UTF-8. -/
def bytes (t : Text) : List UInt8 :=
  t.flatMap String.utf8EncodeChar

/-- The test for the order of bytes decides the lexicographic order. -/
theorem isBefore_iff : isBefore s t = true ↔ s < t := by
  unfold isBefore
  rw [List.lex_eq_true_iff_lex]
  simp only [decide_eq_true_eq]
  rfl

theorem ofNat_lt_ofNat {m n : Nat} (hm : m < 256) (hn : n < 256) :
    UInt8.ofNat m < UInt8.ofNat n ↔ m < n := by
  rw [UInt8.lt_iff_toNat_lt, UInt8.toNat_ofNat_of_lt' hm, UInt8.toNat_ofNat_of_lt' hn]

theorem ofNat_eq_ofNat {m n : Nat} (hm : m < 256) (hn : n < 256) :
    UInt8.ofNat m = UInt8.ofNat n ↔ m = n := by
  rw [← UInt8.toNat_inj, UInt8.toNat_ofNat_of_lt' hm, UInt8.toNat_ofNat_of_lt' hn]

/-- The bytes of a character decide against those of a greater one, whatever follows either. -/
theorem utf8EncodeChar_append_lt (h : c < d) (x y : List UInt8) :
    String.utf8EncodeChar c ++ x < String.utf8EncodeChar d ++ y := by
  have hlt : c.val.toNat < d.val.toNat := h
  have hmax : d.val.toNat < 0x110000 := by
    rcases d.valid with hd | hd
    · exact Nat.lt_trans hd (by decide)
    · exact hd.2
  rw [String.utf8EncodeChar, String.utf8EncodeChar]
  generalize c.val.toNat = m at *
  generalize d.val.toNat = n at *
  have htwo : ∀ k : Nat, k / 4096 = k / 64 / 64 := by omega
  have hthree : ∀ k : Nat, k / 262144 = k / 64 / 64 / 64 := by omega
  -- the lead byte is greater where there are more bytes; otherwise the leading bits come first
  split_ifs <;>
    simp (disch := omega) only [List.cons_append, List.nil_append, List.cons_lt_cons_iff,
      ofNat_lt_ofNat, ofNat_eq_ofNat, htwo, hthree] <;>
    omega

/-- Texts are ordered as their bytes in UTF-8 are. -/
theorem bytes_lt_bytes (h : s < t) : bytes s < bytes t := by
  unfold bytes
  induction h with
  | @nil c t =>
    have hne : String.utf8EncodeChar c ≠ [] := String.utf8EncodeChar_ne_nil
    obtain ⟨b, bs, hbytes⟩ := List.exists_cons_of_ne_nil hne
    rw [List.flatMap_nil, List.flatMap_cons, hbytes]
    exact List.Lex.nil
  | rel h => exact utf8EncodeChar_append_lt h _ _
  | cons _ ih => exact List.append_left_lt ih

end AnswerKey.Text
