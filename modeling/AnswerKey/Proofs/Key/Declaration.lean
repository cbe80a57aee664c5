import AnswerKey.Proofs.Key.Separator

/-!
# What settings lines declare

The settings are read line by line, in a progress that remembers whether a feedback goes on.  What
comes of it can be said without the progress: the last line with a name has the last word, and the
feedback is made of the lines with its name and of those that follow them (`declared`).  Lines fall
into paragraphs, each a line with a name and the lines without one behind it, and paragraphs with
different names have nothing to do with each other, so they can change places.
-/

namespace AnswerKey.Settings

open Text

variable {name other : Name} {line value region : Text} {ls rest : List Text} {p : Progress}

/-! ## Names of lines -/

/-- The text with the given lines. -/
def unlines (ls : List Text) : Text :=
  ['\n'].intercalate ls

/-- A line with a name, and the lines without one that follow it. -/
structure Paragraph where
  name : Name
  value : Text
  rest : List Text
  value_line : '\n' ∉ value
  rest_line : ∀ line ∈ rest, '\n' ∉ line
  rest_nameless : ∀ line ∈ rest, readLine? line = none

namespace Paragraph

/-- The lines of a paragraph. -/
def lines (p : Paragraph) : List Text :=
  (p.name.lead ++ p.value) :: p.rest

/-- The paragraphs that have a name. -/
def named (name : Name) (ps : List Paragraph) : List Paragraph :=
  ps.filter fun p => p.name = name

/-- The text of some paragraphs. -/
def text (ps : List Paragraph) : Text :=
  unlines (ps.flatMap lines)

end Paragraph

end AnswerKey.Settings
