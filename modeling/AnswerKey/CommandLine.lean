import AnswerKey.Text

/-!
# The command line

What the arguments of a run can ask for, the options they are made of, and the
reasons for refusing them.
-/

namespace AnswerKey.CommandLine

/-- What the arguments ask for. -/
structure Invocation where
  /-- The path of the key. -/
  key : Text
  submissions : List Text
  answers : List Text
  /-- Which block to grade against, counted from zero. -/
  block : Nat
  /-- Whether the key is to be listed and nothing graded. -/
  list : Bool
  /-- Whether the report is for programs. -/
  json : Bool
  /-- Whether answers are to be graded one at a time; no grade depends on it. -/
  sequential : Bool
  /-- Whether the report is to be without colour even on a terminal. -/
  noColour : Bool
  /-- How much is to be logged. -/
  verbosity : Nat
deriving DecidableEq, Repr

/-- Why arguments do not ask for a grading. -/
inductive Refusal where
  | unknownArgument
  /-- An option without its value, or an empty path. -/
  | missingValue
  /-- A block that is no natural number. -/
  | malformedValue
  /-- A value for an option that takes none. -/
  | superfluousValue
  /-- An option that must not be given twice was. -/
  | repeatedOption
  | missingKey
  /-- Help was asked for. -/
  | help
  /-- The version was asked for. -/
  | version
deriving DecidableEq, Repr

/-! ## Options -/

/-- The options that are either given or not. -/
inductive Toggle where
  | list | json | sequential | noColour
deriving DecidableEq, Repr

/-- The options that take a value. -/
inductive Setting where
  | answer | block
deriving DecidableEq, Repr

/-- What an option asks for. -/
inductive Action where
  | toggle (t : Toggle)
  | setting (s : Setting)
  | verbose | help | version
deriving DecidableEq, Repr

/-- What the option of a letter asks for. -/
def ofLetter? : Char → Option Action
  | 'a' => some (.setting .answer)
  | 'g' => some (.setting .block)
  | 'l' => some (.toggle .list)
  | 'j' => some (.toggle .json)
  | 's' => some (.toggle .sequential)
  | 'v' => some .verbose
  | 'h' => some .help
  | 'V' => some .version
  | _ => none

/-- What the option of a word asks for. -/
def ofWord? (word : Text) : Option Action :=
  if word = "answer".toList then some (.setting .answer)
  else if word = "group".toList then some (.setting .block)
  else if word = "list".toList then some (.toggle .list)
  else if word = "json".toList then some (.toggle .json)
  else if word = "sequential".toList then some (.toggle .sequential)
  else if word = "no-color".toList then some (.toggle .noColour)
  else if word = "verbose".toList then some .verbose
  else if word = "help".toList then some .help
  else if word = "version".toList then some .version
  else none

end AnswerKey.CommandLine
