import AnswerKey.Log
import AnswerKey.Text.Json

/-!
# Lines of a log

An event is written on a line of its own, for people or as a JSON object.
-/

namespace AnswerKey.Log

/-- The name of a level as it stands in a line. -/
def Level.label (level : Level) : Text :=
  level.name.toList.map Char.toUpper

/-- A value as JSON has it. -/
def Value.json : Value → String
  | text t => Text.Json.text t
  | number n => toString n

namespace Event

/-- The line of an event for people. -/
def line (e : Event) : String :=
  let fields := e.fields.map fun field => " " ++ field.1 ++ "=" ++ field.2.json
  String.ofList e.level.label ++ " " ++ e.target ++ ": " ++ e.message ++ String.join fields
    ++ "\n"

/-- The line of an event as a JSON object. -/
def json (e : Event) : String :=
  let fields := e.fields.map fun field => Text.Json.member field.1 field.2.json
  Text.Json.object
    [Text.Json.member "level" (Text.Json.text e.level.label),
     Text.Json.member "fields"
       (Text.Json.object (Text.Json.member "message" (Text.Json.text e.message.toList) :: fields)),
     Text.Json.member "target" (Text.Json.text e.target.toList)] ++ "\n"

end Event
end AnswerKey.Log
