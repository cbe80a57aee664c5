import AnswerKey.Grading
import AnswerKey.Number.Layout
import AnswerKey.Report

/-!
# Reports on grades

The report for people: a line for each grade, and then a summary, which counts the
grades that are right and those that are wrong; the others are what is left.
-/

namespace AnswerKey.Report

/-- The mark of a verdict. -/
def mark : Verdict → String
  | .correct => "✓"
  | .incomplete => "◐"
  | .wrong => "✗"

/-- The style that a verdict is shown in. -/
def markStyle : Verdict → Style
  | .correct => .green
  | .incomplete => .yellow
  | .wrong => .red

/-- The line for a grade. -/
def gradeLine (g : Grade) : List Command :=
  [.switchOn (markStyle g.verdict), .text (mark g.verdict), .switchOff,
   .text (" " ++ String.ofList g.name ++ " " ++ Number.twoPlaces g.fraction),
   .switchOn .dim, .text (" (" ++ Number.twoPlaces g.points ++ " points)\n"), .switchOff]

/-- How many grades are right. -/
def correctCount (grades : List Grade) : Nat :=
  grades.countP Grade.isCorrect

/-- How many grades are wrong. -/
def wrongCount (grades : List Grade) : Nat :=
  grades.countP Grade.isWrong

/-- How many grades are left. -/
def incompleteCount (grades : List Grade) : Nat :=
  grades.length - correctCount grades - wrongCount grades

/-- What was graded against what. -/
def heading (grader : Grader) (grades : List Grade) : String :=
  toString grades.length ++ (if grades.length = 1 then " answer" else " answers")
    ++ " graded against block " ++ toString (grader.index + 1)
    ++ " (" ++ toString grader.block.percent.toNat ++ "%):"

/-- A count in the summary that is left out if it is zero. -/
def tally (style : Style) (n : Nat) (what : String) : List Command :=
  if n = 0 then []
  else [.text ",", .switchOn style, .text (" " ++ toString n ++ " " ++ what), .switchOff]

/-- The feedback of a key, if it has one. -/
def feedback (key : Key) : List Command :=
  if key.settings.feedback = [] then []
  else
    [.switchOn .dim, .text "Feedback: ", .switchOff,
     .text (String.ofList key.settings.feedback ++ "\n")]

/-- The summary of some grades. -/
def summary (grader : Grader) (grades : List Grade) : List Command :=
  [.text "\n", .switchOn .bold, .text (heading grader grades), .switchOff,
   .switchOn .green, .text (" " ++ toString (correctCount grades) ++ " correct"), .switchOff]
  ++ tally .yellow (incompleteCount grades) "partial"
  ++ tally .red (wrongCount grades) "wrong"
  ++ [.text "\n"]
  ++ feedback grader.key

/-- The report for people. -/
def ofGrades (grader : Grader) (grades : List Grade) : List Command :=
  grades.flatMap gradeLine ++ summary grader grades

end AnswerKey.Report
