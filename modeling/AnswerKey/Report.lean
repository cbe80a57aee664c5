/-!
# Reports

A report is a sequence of commands: texts, and in between what switches a style on
and all styles off.  Where colour is shown every command is carried out; elsewhere
only the texts are written.
-/

namespace AnswerKey

/-- How a piece of text is shown. -/
inductive Style where
  | green | red | yellow | bold | dim
deriving DecidableEq, Repr

namespace Report

/-- What a print call sends. -/
inductive Command where
  | text (t : String)
  /-- Show what follows in this style and no other. -/
  | switchOn (style : Style)
  /-- Show what follows in no style. -/
  | switchOff
deriving DecidableEq, Repr

/-- The sequence that switches every style off. -/
def reset : String := "\x1b[0m"

/-- The sequence that switches a style on, on top of those that are. -/
def sequence : Style → String
  | .green => "\x1b[32m"
  | .red => "\x1b[31m"
  | .yellow => "\x1b[33m"
  | .bold => "\x1b[1m"
  | .dim => "\x1b[2m"

namespace Command

/-- What a command writes where colour is shown. -/
def written : Command → String
  | text t => t
  | switchOn style => reset ++ sequence style
  | switchOff => reset

/-- Whether a command is no colour command. -/
def isText : Command → Bool
  | text _ => true
  | switchOn _ => false
  | switchOff => false

/-- What a command writes, with colour or without. -/
def render (colour : Bool) (c : Command) : String :=
  if colour || c.isText then c.written else ""

end Command

/-- What some commands write, one after the other. -/
def render (colour : Bool) (cs : List Command) : String :=
  String.join (cs.map (Command.render colour))

theorem render_nil (colour : Bool) : render colour [] = "" := rfl

theorem render_cons (colour : Bool) (c : Command) (cs : List Command) :
    render colour (c :: cs) = c.render colour ++ render colour cs := by
  simp [render, String.join_cons]

theorem render_append (colour : Bool) (cs more : List Command) :
    render colour (cs ++ more) = render colour cs ++ render colour more := by
  simp [render]

end Report
end AnswerKey
