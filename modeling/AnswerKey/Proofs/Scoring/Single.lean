import AnswerKey.Proofs.Pattern.Anchored
import AnswerKey.Proofs.Scoring.Fraction

/-!
# Scoring by the first pattern

Where the patterns of a block have their order the first one decides, all or nothing.  The answer
is correct if it is a full match of the pattern as the pattern reads by itself, as long as there is
room for the anchors around it.
-/

namespace AnswerKey.Scoring

open Regex Pattern

variable {o : Options} {p : Text} {tree : Tree}

/-- Group and anchors nest a pattern two levels deeper. -/
theorem height_anchored (o : Options) (t : Tree) : (anchored o t).height = t.height + 2 := by
  obtain ⟨i, s, _, _, _, _, _⟩ := o
  rcases i <;> rcases s <;> simp [anchored, flagTokens, newlineTree, Regex.Tree.height,
    Regex.Tree.greatestHeight]

theorem fits_anchored_iff : (anchored o tree).fits = true ↔
    tree.height ≤ 248 ∧ (Shape.ofTree (anchored o tree)).fits = true := by
  rw [Tree.fits, Bool.and_eq_true, Tree.isShallow, decide_eq_true_iff, height_anchored]
  exact and_congr_left' (by unfold Tree.heightLimit; omega)

/-- The expression for a pattern is its tree between anchors, if there is room for that. -/
theorem compile?_eq (h : readTree? (startFlags o) (body o p) = some tree) :
    compile? o p = if EndsInComment (body o p) ∨ (anchored o tree).fits = false then none
      else some (anchored o tree).regex := by
  unfold compile? read? readWithin?
  rw [readTree?_expand o p h]
  by_cases hcomment : EndsInComment (body o p)
  · rw [if_pos hcomment, if_pos (.inl hcomment)]
    rfl
  · rw [if_neg hcomment, Option.bind_some]
    by_cases hfits : (anchored o tree).fits = true
    · rw [if_pos hfits, if_neg]
      simp [hcomment, hfits]
    · rw [if_neg hfits, if_pos (.inr (Bool.eq_false_iff.2 hfits))]

theorem compile?_isSome_iff (h : readTree? (startFlags o) (body o p) = some tree) :
    (compile? o p).isSome = true ↔ ¬ EndsInComment (body o p) ∧ tree.height ≤ 248 ∧
      (Shape.ofTree (anchored o tree)).fits = true := by
  rw [← fits_anchored_iff, compile?_eq h]
  split
  · next hno =>
    simp only [Option.isSome_none, Bool.false_eq_true, false_iff, not_and]
    intro hopen hfits
    rcases hno with hcomment | hsmall
    · exact hopen hcomment
    · rw [hfits] at hsmall
      cases hsmall
  · next hyes =>
    simp only [not_or, Bool.not_eq_false] at hyes
    simpa using hyes

/-- A pattern that can be compiled accepts the texts that it fully matches. -/
theorem accepts_compile?_iff (h : readTree? (startFlags o) (body o p) = some tree) (t : Text) :
    accepts (compile? o p) t = true ↔ (compile? o p).isSome = true ∧ FullMatch tree.regex t := by
  rw [compile?_eq h]
  split
  · simp [accepts]
  · rw [accepts, Option.any_some, isMatch_iff, matchesIn_anchored_iff]
    simp

/-- A pattern that is an expression by itself is one under the flags of the options too. -/
theorem exists_readTree?_of_read? (h : (Regex.read? (body o p)).isSome = true) :
    ∃ tree, readTree? (startFlags o) (body o p) = some tree := by
  obtain ⟨r, hr⟩ := Option.isSome_iff_exists.1 h
  obtain ⟨tree, htree, -⟩ := Option.bind_eq_some_iff.1 hr
  have hunicode : ({} : Flags).unicode = (startFlags o).unicode := rfl
  exact readTree?_alike hunicode htree

theorem score_of_single {b : Block} {later : List Text} (hpatterns : b.patterns = p :: later)
    (hany : b.options.anyOrder = false) (separator answer : Text) :
    score b separator answer =
      .ofBool (accepts (compile? b.options p) (prepare b.options answer)) := by
  unfold score scoreSingle
  rw [if_neg (by simp [hany]), hpatterns]

/-- The score is all or nothing.  If the first pattern is an expression by itself, then it can be
compiled unless it ends in a comment or its group and anchors are too much; and the score is full
if it can and the answer is a full match. -/
theorem score_single_iff_fullMatch (b : Block) (p : Text) (later : List Text)
    (hpatterns : b.patterns = p :: later) (hany : b.options.anyOrder = false)
    (separator answer : Text) :
    (score b separator answer = ⟨1, 1⟩ ∧ (score b separator answer).fraction = 1.0 ∨
        score b separator answer = ⟨0, 1⟩ ∧ (score b separator answer).fraction = 0.0) ∧
      ((Regex.read? (body b.options p)).isSome = true →
        ∃ tree, readTree? (startFlags b.options) (body b.options p) = some tree ∧
          ((compile? b.options p).isSome = true ↔ ¬ EndsInComment (body b.options p) ∧
            tree.height ≤ 248 ∧ (Shape.ofTree (anchored b.options tree)).fits = true) ∧
          (score b separator answer = ⟨1, 1⟩ ↔ (compile? b.options p).isSome = true ∧
            FullMatch tree.regex (prepare b.options answer))) := by
  rw [score_of_single hpatterns hany, Score.fraction_ofBool]
  constructor
  · rcases accepts (compile? b.options p) (prepare b.options answer)
    · exact .inr ⟨rfl, rfl⟩
    · exact .inl ⟨rfl, rfl⟩
  · intro hq
    obtain ⟨tree, htree⟩ := exists_readTree?_of_read? hq
    refine ⟨tree, htree, compile?_isSome_iff htree, ?_⟩
    rw [← accepts_compile?_iff htree]
    exact Score.ofBool_eq_full_iff

/-- A block with two patterns, the first of which has a choice and a newline of its own. -/
def sampleBlock : Block := ⟨100, ["a|b+\\n".toList, "c".toList], { trimAnswer := false }⟩

/-- The choice is anchored on both sides, and one newline more may follow. -/
theorem score_sample_fullMatch :
    (score sampleBlock [] "bb\n\n".toList = ⟨1, 1⟩ ∧ score sampleBlock [] "ab\n".toList = ⟨0, 1⟩) ∧
      (score sampleBlock [] "bb\n\n".toList).fraction = 1.0 ∧
      ∃ tree, readTree? (startFlags sampleBlock.options) "a|b+\\n".toList = some tree ∧
        FullMatch tree.regex "bb\n\n".toList := by
  have hfull : score sampleBlock [] "bb\n\n".toList = ⟨1, 1⟩ := by decide +kernel
  obtain ⟨hscores, hread⟩ := score_single_iff_fullMatch sampleBlock "a|b+\\n".toList ["c".toList]
    rfl rfl [] "bb\n\n".toList
  obtain ⟨tree, htree, -, hscore⟩ := hread (by decide +kernel)
  refine ⟨⟨hfull, by decide +kernel⟩, ?_, tree, htree, (hscore.1 hfull).2⟩
  rcases hscores with ⟨-, hone⟩ | ⟨hnothing, -⟩
  · exact hone
  · rw [hfull] at hnothing
    cases hnothing

/-- A letter under as many stars as may be nested in each other. -/
def deepPattern : Text := 'a' :: List.replicate 249 '*'

/-- An expression that is nested so deep that there is no room for a group and anchors: the answer
is a full match of it and scores nothing. -/
theorem deepPattern_scores_nothing :
    (Regex.read? (body {} deepPattern)).isSome = true ∧ compile? {} deepPattern = none ∧
      (∃ tree, readTree? (startFlags {}) (body {} deepPattern) = some tree ∧
        FullMatch tree.regex "a".toList) ∧
      score ⟨100, [deepPattern], {}⟩ ['\n'] "a".toList = ⟨0, 1⟩ ∧
      (score ⟨100, [deepPattern], {}⟩ ['\n'] "a".toList).fraction = 0.0 := by
  have hscore : score ⟨100, [deepPattern], {}⟩ ['\n'] "a".toList = ⟨0, 1⟩ := by decide +kernel
  have hnothing : (score ⟨100, [deepPattern], {}⟩ ['\n'] "a".toList).fraction = 0.0 := by
    rw [hscore]
    exact Score.fraction_of_none Nat.one_pos
  refine ⟨by decide +kernel, by decide +kernel, ?_, hscore, hnothing⟩
  have hregex : (readTree? (startFlags {}) (body {} deepPattern)).map Tree.regex =
      some (.repeated (.chars (.char 'a')) 0 none) := by decide +kernel
  obtain ⟨tree, htree, hregex⟩ := Option.map_eq_some_iff.1 hregex
  refine ⟨tree, htree, "a".toList, [], rfl, .inl rfl, ?_⟩
  rw [hregex]
  exact .goOn (t := []) (.chars rfl) .done

end AnswerKey.Scoring
