import AnswerKey.Grading
import AnswerKey.Number.Layout
import AnswerKey.Report
import AnswerKey.Text.Json

/-!
# Records of grades

The report for programs: a JSON object for each grade, on a line of its own, its
members sorted by name.
-/

namespace AnswerKey.Report

/-- The record of a grade. -/
def record (key : Key) (g : Grade) : List Command :=
  [.text (Text.Json.object
    [Text.Json.member "feedback" (Text.Json.text key.settings.feedback),
     Text.Json.member "fraction" (Number.json g.fraction),
     Text.Json.member "name" (Text.Json.text g.name),
     Text.Json.member "percent" (toString g.percent.toNat),
     Text.Json.member "points" (Number.json key.settings.points),
     Text.Json.member "points_awarded" (Number.json g.points),
     Text.Json.member "size" (toString key.settings.size.toInt)] ++ "\n")]

/-- The report for programs. -/
def records (grader : Grader) (grades : List Grade) : List Command :=
  grades.flatMap (record grader.key)

end AnswerKey.Report
