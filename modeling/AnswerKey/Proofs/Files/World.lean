import AnswerKey.Files.World

/-!
# Files apart from the standard input

Following a path reads the tree only, so two worlds that differ in their standard inputs only have
the same files.
-/

namespace AnswerKey.Files.World

theorem follow_input (w : World) (input : ByteArray) (links : Nat) (place : Place)
    (names : List Text) :
    follow { w with input := input } links place names = follow w links place names := by
  -- on each branch that `w` takes, the same tests send the other world the same way
  fun_induction follow w links place names <;> rw [follow] <;> simp only [*, if_true, if_false]

/-- The files are the same whatever the standard input is. -/
theorem readFile_input (w : World) (input : ByteArray) (path : Text) :
    readFile { w with input := input } path = w.readFile path := by
  unfold readFile locate
  simp only [follow_input]

end AnswerKey.Files.World
