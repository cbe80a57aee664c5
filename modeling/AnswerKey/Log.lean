import AnswerKey.Key.Reader
import AnswerKey.Scoring

/-!
# Log events

What a run tells of itself while it is at work.  An event has a level of
importance, a target that names the part of the program it comes from, a message and
some fields.
-/

namespace AnswerKey.Log

/-- How important an event is. -/
inductive Level where
  | error | warn | info | debug | trace
deriving DecidableEq, Repr

namespace Level

/-- The levels count from one, the most important first. -/
def rank : Level → Nat
  | error => 1
  | warn => 2
  | info => 3
  | debug => 4
  | trace => 5

/-- The name of a level. -/
def name : Level → String
  | error => "error"
  | warn => "warn"
  | info => "info"
  | debug => "debug"
  | trace => "trace"

/-- The level of the least important events that are shown where being verbose was asked for this
often. -/
def ofVerbosity : Nat → Level
  | 0 => warn
  | 1 => info
  | 2 => debug
  | _ => trace

end Level

/-- What can happen. -/
inductive Event where
  | blockRead (percent : UInt32) (letters : Text) (patterns : Nat)
  | settingRead (name : Settings.Name)
  | directoryWalked (path : Text) (files : Nat)
  | gradingStarted (answers block : Nat)
  | patternExpanded (pattern expression : Text)
  /-- A pattern that stands for no regular expression. -/
  | patternRejected
deriving DecidableEq, Repr

/-- The value of a field. -/
inductive Value where
  | text (t : Text)
  | number (n : Nat)
deriving DecidableEq, Repr

/-- The name of a setting in an event. -/
def settingName : Settings.Name → Text
  | .comment => "Comment".toList
  | .separator => "Separator".toList
  | .feedback => "Feedback".toList
  | .points => "Points".toList
  | .size => "Size".toList

namespace Event

/-- How important an event is. -/
def level : Event → Level
  | blockRead _ _ _ => .debug
  | settingRead _ => .debug
  | directoryWalked _ _ => .debug
  | gradingStarted _ _ => .info
  | patternExpanded _ _ => .trace
  | patternRejected => .warn

/-- The part of the program that an event comes from. -/
def target : Event → String
  | blockRead _ _ _ => "regexmatch_spec::parser"
  | settingRead _ => "regexmatch_spec::metadata"
  | directoryWalked _ _ => "regexmatch::discover"
  | gradingStarted _ _ => "regexmatch"
  | patternExpanded _ _ => "regexmatch_score::builder"
  | patternRejected => "regexmatch_score::scorer"

/-- What happened. -/
def message : Event → String
  | blockRead _ _ _ => "parsed pattern block"
  | settingRead _ => "metadata key"
  | directoryWalked _ _ => "discovered submissions"
  | gradingStarted _ _ => "grading"
  | patternExpanded _ _ => "constructed regex"
  | patternRejected => "pattern never matches"

/-- The fields of an event. -/
def fields : Event → List (String × Value)
  | blockRead percent letters patterns =>
    [("percent", .number percent.toNat), ("flags", .text letters), ("patterns", .number patterns)]
  | settingRead name => [("key", .text (settingName name))]
  | directoryWalked path files => [("dir", .text path), ("count", .number files)]
  | gradingStarted answers block => [("count", .number answers), ("group", .number block)]
  | patternExpanded pattern expression =>
    [("pattern", .text pattern), ("regex", .text expression)]
  | patternRejected => []

/-- The names that a filter can ask for: those of the fields, the message, and for a pattern that
was rejected the reason, which is told to no one. -/
def fieldNames (e : Event) : List Text :=
  let names := "message".toList :: e.fields.map fun field => field.1.toList
  match e with
  | patternRejected => "error".toList :: names
  | _ => names

end Event
end AnswerKey.Log
