import AnswerKey.Files.Walk
import AnswerKey.Key

/-!
# Failures

Why nothing could be graded: a text that cannot be read, a key that is none, a
block that does not exist, or a directory that cannot be walked.
-/

namespace AnswerKey

open Files (ReadError WalkError)

/-- Why nothing could be graded. -/
inductive Failure where
  | unreadableKey (path : Text) (cause : ReadError)
  | unreadableSubmission (path : Text) (cause : ReadError)
  | unreadableInput (cause : ReadError)
  | invalidKey (cause : KeyError)
  /-- The key has only `count` blocks. -/
  | noBlock (index count : Nat)
  /-- The standard input is asked for a second time. -/
  | inputTwice
  | walk (cause : WalkError)
deriving DecidableEq, Repr

namespace Failure

/-- The failure in words. -/
def message : Failure → String
  | unreadableKey path _ => "Failed to read specification '" ++ String.ofList path ++ "'"
  | unreadableSubmission path _ => "Failed to read submission '" ++ String.ofList path ++ "'"
  | unreadableInput cause => "IO error: " ++ cause.message
  | invalidKey cause => "Invalid answer specification: " ++ cause.message
  | noBlock index count =>
    "Group " ++ toString index ++ " does not exist (specification has " ++ toString count
      ++ " groups)"
  | inputTwice => "stdin can only be read once (given as '-' more than once)"
  | walk cause => "Walkdir error: " ++ cause.message

/-- What the failure came from, what that came from, and so on, in words. -/
def causes : Failure → List String
  | unreadableKey _ cause => [cause.message]
  | unreadableSubmission _ cause => [cause.message]
  | unreadableInput cause => [cause.message]
  | invalidKey cause => [cause.message]
  | noBlock _ _ => []
  | inputTwice => []
  | walk cause => cause.message :: (cause.cause?.map ReadError.message).toList

/-- A text whose lines after the first are indented by `width`. -/
def hang (width : Nat) (s : String) : String :=
  let indent := "\n" ++ "".pushn ' ' width
  indent.intercalate ((Text.lines s.toList).map String.ofList)

/-- The causes as a report lists them, numbered if there are several. -/
def listCauses : List String → String
  | [] => ""
  | [cause] => "\nCaused by:\n    " ++ hang 4 cause ++ "\n"
  | causes =>
    let numbered := causes.mapIdx fun i cause => "    " ++ toString i ++ ": " ++ hang 7 cause ++ "\n"
    "\nCaused by:\n" ++ String.join numbered

/-- The failure and all its causes. -/
def report (f : Failure) : String :=
  "Error: " ++ f.message ++ "\n" ++ listCauses f.causes

end Failure
end AnswerKey
