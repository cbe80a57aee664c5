import AnswerKey.Proofs.Text.Padding
import AnswerKey.Scoring

/-!
# Answers with padding

Under options that trim an answer, padding around the answer does not change its score.  Where the
patterns may come in any order and the lines end at newlines, neither does padding beside a newline;
so it makes no difference whether lines end in a newline or in a carriage return and a newline.
-/

namespace AnswerKey.Scoring

open Text (isBlank trimmedLines Loosened withReturns)

variable {b : Block} {o : Options} {separator answer other : Text}

theorem prepare_of_trim (h : o.trimAnswer = true) (t : Text) : prepare o t = Text.trim t :=
  if_pos h

/-- An answer counts as the options would have it. -/
theorem score_congr (h : prepare b.options answer = prepare b.options other) (separator : Text) :
    score b separator answer = score b separator other := by
  unfold score scoreAnyOrder scoreSingle answerLines
  rw [h]

/-- Where the patterns may come in any order an answer counts as its lines. -/
theorem score_congr_lines (hany : b.options.anyOrder = true)
    (h : answerLines b.options separator answer = answerLines b.options separator other) :
    score b separator answer = score b separator other := by
  unfold score scoreAnyOrder
  rw [if_pos hany, if_pos hany, h]

theorem answerLines_of_trim (h : o.trimAnswer = true) (answer : Text) :
    answerLines o ({} : Settings).separator answer = trimmedLines answer := by
  have hprepare : prepare o = Text.trim := funext (prepare_of_trim h)
  unfold answerLines
  rw [hprepare]
  rfl

/-- Padding around an answer is not scored. -/
theorem score_around (htrim : b.options.trimAnswer = true) {front behind : Text}
    (hfront : front.isBlank = true) (hbehind : behind.isBlank = true) (separator answer : Text) :
    score b separator (front ++ answer ++ behind) = score b separator answer := by
  apply score_congr
  rw [prepare_of_trim htrim, prepare_of_trim htrim, Text.trim_append_right hbehind,
    Text.trim_append_left hfront]

/-- Padding within an answer is not scored where it stands next to newlines. -/
theorem score_loosened (htrim : b.options.trimAnswer = true) (hany : b.options.anyOrder = true)
    (h : Loosened answer other) :
    score b ({} : Settings).separator other = score b ({} : Settings).separator answer := by
  apply score_congr_lines hany
  rw [answerLines_of_trim htrim, answerLines_of_trim htrim, h.trimmedLines_eq]

/-- Padding does not change the score of an answer that is trimmed: around the answer, whatever the
separator and the order of the patterns; and beside newlines too where the patterns may come in any
order and the separator is the newline. -/
theorem score_padded (b : Block) (htrim : b.options.trimAnswer = true) (answer : Text) :
    (∀ separator front behind, front.isBlank = true → behind.isBlank = true →
      score b separator (front ++ answer ++ behind) = score b separator answer) ∧
    (b.options.anyOrder = true →
      (∀ looser front behind, Loosened answer looser → front.isBlank = true →
        behind.isBlank = true →
        score b ({} : Settings).separator (front ++ looser ++ behind) =
          score b ({} : Settings).separator answer) ∧
      score b ({} : Settings).separator (withReturns answer) =
        score b ({} : Settings).separator answer) := by
  refine ⟨fun separator front behind hfront hbehind => ?_, fun hany => ⟨?_, ?_⟩⟩
  · exact score_around htrim hfront hbehind separator answer
  · intro looser front behind hlooser hfront hbehind
    rw [score_around htrim hfront hbehind, score_loosened htrim hany hlooser]
  · exact score_loosened htrim hany (Text.loosened_withReturns answer)

/-- A block with two patterns in any order. -/
def twoWords : Block := ⟨100, ["a".toList, "b".toList], { anyOrder := true }⟩

/-- The empty line between the two words counts, with whatever padding it is written, and those at
the ends do not. -/
theorem score_padded_sample :
    score twoWords ['\n'] "a\n\nb".toList = ⟨1, 2⟩ ∧
      score twoWords ['\n'] "a\r\n\r\nb".toList = ⟨1, 2⟩ ∧
      score twoWords ['\n'] "\n \na \n\t\nb\x00\r\n".toList = ⟨1, 2⟩ ∧
      score twoWords [';'] "\na;b ".toList = score twoWords [';'] "a;b".toList := by
  obtain ⟨haround, hany⟩ := score_padded twoWords rfl "a\n\nb".toList
  obtain ⟨hlooser, hreturns⟩ := hany rfl
  have hplain : score twoWords ['\n'] "a\n\nb".toList = ⟨1, 2⟩ := by decide +kernel
  have hspace : Loosened "a\n\nb".toList "a \n\t\nb".toList :=
    .char 'a' (.newline (⟨rfl, by decide⟩ : Text.IsInset [' ']) (⟨rfl, by decide⟩ : Text.IsInset ['\t'])
      (.char '\n' (.char 'b' .nil)))
  refine ⟨hplain, hreturns.trans hplain, ?_, ?_⟩
  · exact (hlooser _ "\n \n".toList "\x00\r\n".toList hspace rfl rfl).trans hplain
  · obtain ⟨hsemicolon, -⟩ := score_padded twoWords rfl "a;b".toList
    exact hsemicolon [';'] ['\n'] [' '] rfl rfl

end AnswerKey.Scoring
