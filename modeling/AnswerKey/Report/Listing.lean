import AnswerKey.Key
import AnswerKey.Number.Layout
import AnswerKey.Pattern
import AnswerKey.Report
import AnswerKey.Text.Quoted

/-!
# The listing of a key

A listing shows how a key was understood: its blocks, each pattern with the regular
expression it stands for, and the settings.
-/

namespace AnswerKey.Report

/-- A pattern, and the expression it stands for. -/
def listPattern (o : Options) (pattern : Text) : List Command :=
  [.text ("  [[" ++ String.ofList pattern ++ "]]\n"),
   .switchOn .dim, .text ("    " ++ String.ofList (Pattern.expand o pattern) ++ "\n"), .switchOff]

/-- The letters of the options that differ from the start. -/
def listLetters (o : Options) : List Command :=
  if o.letters = [] then []
  else [.switchOn .dim, .text (" /" ++ String.ofList o.letters ++ "/"), .switchOff]

/-- A block, the first of which has number one. -/
def listBlock (number : Nat) (b : Block) : List Command :=
  [.switchOn .bold,
   .text ("block " ++ toString number ++ " (" ++ toString b.percent.toNat ++ "%)"), .switchOff]
  ++ listLetters b.options
  ++ [.text (if b.options.anyOrder then " any order\n" else "\n")]
  ++ b.patterns.flatMap (listPattern b.options)

/-- The settings, the feedback only if there is one. -/
def listSettings (s : Settings) : List Command :=
  [.text ("separator: " ++ String.ofList (Text.Quoted.quote Text.Quoted.visible s.separator)
      ++ "\n"),
   .text ("points: " ++ Number.plain s.points ++ "\n"),
   .text ("size: " ++ toString s.size.toInt ++ "\n")]
  ++ if s.feedback = [] then [] else [.text ("feedback: " ++ String.ofList s.feedback ++ "\n")]

/-- The listing of a key. -/
def listing (key : Key) : List Command :=
  (key.blocks.mapIdx fun i b => listBlock (i + 1) b).flatten ++ listSettings key.settings

end AnswerKey.Report
