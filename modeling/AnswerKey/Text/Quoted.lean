import AnswerKey.Text
import AnswerKey.Unicode.Printable

/-!
# Quoted texts

A quoted text stands between double quotes, and each of its characters is written
by a rule.  One rule shows what cannot be seen, the other is that of JSON.
-/

namespace AnswerKey.Text.Quoted

/-- A text between double quotes, each character written by `escape`. -/
def quote (escape : Char → Text) (t : Text) : Text :=
  '"' :: (t.flatMap escape ++ ['"'])

/-- The code point of a character in hexadecimal digits. -/
def hexadecimal (c : Char) : Text :=
  Nat.toDigits 16 c.toNat

/-- Every character can be seen: those that cannot, and those that would join the one before
them, are written as code points. -/
def visible (c : Char) : Text :=
  match c with
  | '\x00' => ['\\', '0']
  | '\t' => ['\\', 't']
  | '\r' => ['\\', 'r']
  | '\n' => ['\\', 'n']
  | '"' => ['\\', '"']
  | '\\' => ['\\', '\\']
  | _ =>
    if Unicode.isExtender c || !Unicode.isPrintable c then
      ['\\', 'u', '\x7b'] ++ hexadecimal c ++ ['\x7d']
    else [c]

/-- The rule of JSON: quotes, backslashes and control characters are escaped. -/
def json (c : Char) : Text :=
  match c with
  | '"' => ['\\', '"']
  | '\\' => ['\\', '\\']
  | '\x08' => ['\\', 'b']
  | '\x0c' => ['\\', 'f']
  | '\n' => ['\\', 'n']
  | '\r' => ['\\', 'r']
  | '\t' => ['\\', 't']
  | _ =>
    if c.toNat < 0x10 then "\\u000".toList ++ hexadecimal c
    else if c.toNat < 0x20 then "\\u00".toList ++ hexadecimal c
    else [c]

end AnswerKey.Text.Quoted
