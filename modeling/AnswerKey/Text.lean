/-!
# Texts

A text is the list of its characters.  This module fixes the padding characters
that are stripped around keys and answers, and how many bytes a text takes.
-/

namespace AnswerKey

/-- A text, character by character. -/
abbrev Text := List Char

namespace Text

/-- Padding: space, tab, newline, carriage return, NUL and vertical tab. -/
def isPadding (c : Char) : Bool :=
  c == ' ' || c == '\t' || c == '\n' || c == '\r' || c == '\x00' || c == '\x0b'

/-- A text without its leading padding. -/
def trimStart (t : Text) : Text :=
  t.dropWhile isPadding

/-- A text without its trailing padding. -/
def trimEnd (t : Text) : Text :=
  (t.reverse.dropWhile isPadding).reverse

/-- A text without the padding around it. -/
def trim (t : Text) : Text :=
  trimEnd (trimStart t)

/-- The number of bytes of a text in UTF-8. -/
def byteSize : Text → Nat
  | [] => 0
  | c :: t => c.utf8Size + byteSize t

/-- A text without its first `n` bytes.  A character goes if its first byte does. -/
def dropBytes : Nat → Text → Text
  | 0, t => t
  | _ + 1, [] => []
  | n + 1, c :: t => dropBytes (n + 1 - c.utf8Size) t

/-- The first `n` bytes of a text.  A character is among them if its first byte is. -/
def takeBytes : Nat → Text → Text
  | 0, _ => []
  | _ + 1, [] => []
  | n + 1, c :: t => c :: takeBytes (n + 1 - c.utf8Size) t

/-- Whether one text comes before another, character by character. -/
def isBefore (t other : Text) : Bool :=
  t.lex other fun a b => a.toNat < b.toNat

/-- What follows `start` in a text that begins with it. -/
def after? : (start text : Text) → Option Text
  | [], t => some t
  | _ :: _, [] => none
  | a :: start, c :: t => if a = c then after? start t else none

theorem after?_eq_some {start t rest : Text} :
    after? start t = some rest ↔ t = start ++ rest := by
  fun_induction after? start t with
  | case1 t => simp [eq_comm]
  | case2 => simp
  | case3 start a t ih => simp [ih]
  | case4 a start c t h => simp [Ne.symm h]

theorem takeBytes_append_dropBytes (n : Nat) (t : Text) : takeBytes n t ++ dropBytes n t = t := by
  fun_induction takeBytes n t with
  | case1 t => simp [dropBytes]
  | case2 => simp [dropBytes]
  | case3 n c t ih => simp [dropBytes, ih]

@[simp] theorem byteSize_append (s t : Text) : byteSize (s ++ t) = byteSize s + byteSize t := by
  induction s with
  | nil => simp [byteSize]
  | cons c s ih => simp [byteSize, ih, Nat.add_assoc]

/-- Where every character takes one byte there are as many bytes as characters. -/
theorem byteSize_eq_length {t : Text} (h : ∀ c ∈ t, c.utf8Size = 1) : byteSize t = t.length := by
  induction t with
  | nil => rfl
  | cons c t ih =>
    obtain ⟨hc, ht⟩ := List.forall_mem_cons.1 h
    rw [byteSize, hc, ih ht, List.length_cons, Nat.add_comm]

theorem length_le_byteSize (t : Text) : t.length ≤ byteSize t := by
  induction t with
  | nil => exact Nat.le_refl 0
  | cons c t ih =>
    have hpos := c.utf8Size_pos
    rw [byteSize, List.length_cons]
    omega

end Text
end AnswerKey
