import AnswerKey.Options

/-!
# Answer keys

A key lists weighted blocks of patterns, and settings that hold for all of them.
A text that is no key is refused for one of three reasons.
-/

namespace AnswerKey

/-- A block of patterns under one set of options. -/
structure Block where
  /-- The weight of the block in percent. -/
  percent : UInt32
  /-- The patterns as they were written, in order. -/
  patterns : List Text
  options : Options
deriving DecidableEq, Repr

/-- What the lines after the last block settle. -/
structure Settings where
  /-- What divides an answer into lines when patterns may come in any order. -/
  separator : Text := ['\n']
  /-- The points that a correct answer earns. -/
  points : Float := 1.0
  /-- The width of the input field. -/
  size : Int64 := 5
  /-- What is said after grading. -/
  feedback : Text := []

/-- An answer key. -/
structure Key where
  blocks : List Block
  settings : Settings

/-- Why a text is no key.  Offsets count bytes of the text without carriage returns. -/
inductive KeyError where
  /-- No closing bracket with letters behind it after the offset. -/
  | missingDelimiter (offset : Nat)
  /-- A percent sign at the offset that no digit follows. -/
  | missingWeight (offset : Nat)
  /-- A weight that is too large. -/
  | invalidWeight (digits : Text)
deriving DecidableEq, Repr

/-- The reason in words. -/
def KeyError.message : KeyError → String
  | missingDelimiter offset => "no ']] /flags/' delimiter found after offset " ++ toString offset
  | missingWeight offset => "expected '%' followed by a weight at offset " ++ toString offset
  | invalidWeight digits => "invalid block weight '" ++ String.ofList digits ++ "'"

namespace Key

/-- The key of a text that is none: no blocks and the settings of the start. -/
def blank : Key := ⟨[], {}⟩

/-- Whether there is a block to grade against. -/
def isValid (k : Key) : Bool := !k.blocks.isEmpty

end Key
end AnswerKey
