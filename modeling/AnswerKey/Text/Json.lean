import AnswerKey.Text.Quoted

/-!
# JSON objects

An object is written without blanks, its members in the order in which they are given.
-/

namespace AnswerKey.Text.Json

/-- A text as JSON has it. -/
def text (t : Text) : String :=
  String.ofList (Quoted.quote Quoted.json t)

/-- A member of a JSON object. -/
def member (name value : String) : String :=
  text name.toList ++ ":" ++ value

/-- A JSON object. -/
def object (members : List String) : String :=
  "\x7b" ++ ",".intercalate members ++ "\x7d"

end AnswerKey.Text.Json
