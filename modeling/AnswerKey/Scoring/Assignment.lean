/-!
# Assigning lines to patterns

Each pattern in turn takes the first line that it accepts among those that are
still free.  What a pattern is, and when it accepts a line, is left open.
-/

namespace AnswerKey.Scoring

variable {α β : Type}

/-- For each pattern in turn the position of the line it takes, where `free` holds the lines
that are left with their positions. -/
def assign (accepts : β → α → Bool) : (free : List (α × Nat)) → (patterns : List β) →
    List (Option Nat)
  | _, [] => []
  | free, p :: patterns =>
    match free.find? fun line => accepts p line.1 with
    | none => none :: assign accepts free patterns
    | some (_, i) =>
      some i :: assign accepts (free.filter fun line => line.2 != i) patterns

/-- For each pattern the position of the line it takes, if it takes one. -/
def assignment (accepts : β → α → Bool) (lines : List α) (patterns : List β) :
    List (Option Nat) :=
  assign accepts lines.zipIdx patterns

/-- How many lines are taken. -/
def takenCount (accepts : β → α → Bool) (lines : List α) (patterns : List β) : Nat :=
  ((assignment accepts lines patterns).filterMap id).length

end AnswerKey.Scoring
