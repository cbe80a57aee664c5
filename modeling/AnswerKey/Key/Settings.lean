import AnswerKey.Key
import AnswerKey.Number.Literal
import AnswerKey.Text.Delimiter

/-!
# Settings lines

Every line after the last block that begins with a name and an equals sign
settles something.  Lines without a name continue a feedback that stands before
them and are passed over otherwise.
-/

namespace AnswerKey.Settings

/-- The names that a settings line may begin with. -/
inductive Name where
  | comment | separator | feedback | points | size
deriving DecidableEq, Repr

namespace Name

/-- The names in the order in which they are tried. -/
def all : List Name := [comment, separator, feedback, points, size]

/-- What a line with this name begins with. -/
def lead : Name → Text
  | comment => "comment=".toList
  | separator => "separator=".toList
  | feedback => "feedback=".toList
  | points => "points=".toList
  | size => "size=".toList

end Name

/-- The name that a line begins with, and the rest of the line. -/
def readLine? (line : Text) : Option (Name × Text) :=
  Name.all.findSome? fun name => (Text.after? name.lead line).map fun value => (name, value)

/-- The points that a value gives: its leading number, padding aside, or none. -/
def readPoints (value : Text) : Float :=
  match Number.Literal.read? (Text.trim value) with
  | some (literal, _) => literal.toFloat
  | none => 0.0

/-- The size that a value gives: its leading integer, or none. -/
def readSize (value : Text) : Int64 :=
  match Number.leadingInteger? value with
  | some n => Number.saturate n
  | none => 0

/-- The settings read so far but for the feedback, the pieces of the feedback, last first, and
whether a line without a name continues it. -/
structure Progress where
  settings : Settings := {}
  feedback : List Text := []
  inFeedback : Bool := false

/-- The progress after one more line. -/
def step (p : Progress) (line : Text) : Progress :=
  match readLine? line with
  | none => if p.inFeedback then { p with feedback := line :: p.feedback } else p
  | some (.feedback, value) => { p with feedback := value :: p.feedback, inFeedback := true }
  | some (.comment, _) => { p with inFeedback := false }
  | some (.separator, value) =>
    { p with settings := { p.settings with separator := value }, inFeedback := false }
  | some (.points, value) =>
    { p with settings := { p.settings with points := readPoints value }, inFeedback := false }
  | some (.size, value) =>
    { p with settings := { p.settings with size := readSize value }, inFeedback := false }

/-- The settings that have been read. -/
def Progress.finish (p : Progress) : Settings :=
  { p.settings with feedback := p.feedback.reverse.flatten }

/-- The settings that the lines of a text make. -/
def read (region : Text) : Settings :=
  ((Text.lines region).foldl step {}).finish

/-- The names of the lines of a text that have one, in order. -/
def names (region : Text) : List Name :=
  (Text.lines region).filterMap fun line => (readLine? line).map Prod.fst

end AnswerKey.Settings
