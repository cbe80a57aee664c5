import AnswerKey.Scoring
import AnswerKey.Submission

/-!
# Grading

A grader is a key together with one of its blocks, against which all answers are
graded.  A grade is right, wrong or in between, as its fraction is at least 1, at
most 0 or in between.
-/

namespace AnswerKey

/-- How an answer fared. -/
inductive Verdict where
  | correct
  /-- Some of the points. -/
  | incomplete
  | wrong
deriving DecidableEq, Repr

/-- The grade of an answer. -/
structure Grade where
  /-- The name that the answer goes by. -/
  name : Text
  score : Score
  /-- The weight of the block that was graded against. -/
  percent : UInt32
  /-- The points that a correct answer earns. -/
  worth : Float

namespace Grade

/-- The score as a fraction. -/
def fraction (g : Grade) : Float :=
  g.score.fraction

/-- The points that the answer earned. -/
def points (g : Grade) : Float :=
  g.fraction * g.worth

/-- Whether the answer earned all that it could. -/
def isCorrect (g : Grade) : Bool :=
  1.0 ≤ g.fraction

/-- Whether the answer earned nothing. -/
def isWrong (g : Grade) : Bool :=
  g.fraction ≤ 0.0

/-- How the answer fared. -/
def verdict (g : Grade) : Verdict :=
  if g.isCorrect then .correct else if g.isWrong then .wrong else .incomplete

end Grade

/-- A way to grade the answers of a list, several at a time, given how one is graded. -/
abbrev Collector := (Submission → Grade) → List Submission → List Grade

/-- A key, and one of its blocks to grade against. -/
structure Grader where
  key : Key
  index : Nat
  block : Block
  block_at : key.blocks[index]? = some block

namespace Grader

/-- The grader for a block of a key. -/
def ofKey (key : Key) (index : Nat) : Except Failure Grader :=
  match h : key.blocks[index]? with
  | some block => .ok ⟨key, index, block, h⟩
  | none => .error (.noBlock index key.blocks.length)

/-- The grader for a block of the key that a text stands for. -/
def ofText (text : Text) (index : Nat) : Except Failure Grader :=
  match Key.read text with
  | .ok key => ofKey key index
  | .error e => .error (.invalidKey e)

/-- The grade of an answer. -/
def grade (g : Grader) (s : Submission) : Grade where
  name := s.name
  score := Scoring.score g.block g.key.settings.separator s.text
  percent := g.block.percent
  worth := g.key.settings.points

/-- The grades of some answers, in order. -/
def gradeAll (g : Grader) (submissions : List Submission) : List Grade :=
  submissions.map g.grade

/-- The grades of some answers where `collect` grades several at a time, if that is asked for and
there are several. -/
def gradeAllBy (collect : Collector) (g : Grader) (parallel : Bool)
    (submissions : List Submission) : List Grade :=
  if parallel && 1 < submissions.length then collect g.grade submissions
  else g.gradeAll submissions

end Grader
end AnswerKey
