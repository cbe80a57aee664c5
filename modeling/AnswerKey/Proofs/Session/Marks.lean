import AnswerKey.Proofs.Key.WellFormed
import AnswerKey.Proofs.Report
import AnswerKey.Proofs.Session.Stage

/-!
# Marks, summary and exit code

A run that comes as far as grading prints a line with a mark for each answer, sums the marks up and
leaves an exit code.  All of them go by the same two tests of the same quotient, so they agree
(`run_marks_agree`); and grading several answers at a time makes no difference, nor does the form of
the report to the exit code.
-/

namespace AnswerKey

/-- Each grade is put where its answer was, whichever is graded first. -/
structure Collector.KeepsOrder (collect : Collector) : Prop where
  getElem?_collect : ∀ (grade : Submission → Grade) (submissions : List Submission) (k : Nat),
    (collect grade submissions)[k]? = submissions[k]?.map grade

theorem Grader.gradeAllBy_eq {collect : Collector} (h : collect.KeepsOrder) (g : Grader)
    (parallel : Bool) (submissions : List Submission) :
    g.gradeAllBy collect parallel submissions = g.gradeAll submissions := by
  have hcollect : collect g.grade submissions = g.gradeAll submissions := by
    refine List.ext_getElem? fun k => ?_
    rw [h.getElem?_collect, gradeAll, List.getElem?_map]
  unfold gradeAllBy
  rw [hcollect, ite_self]

/-! ## Lines -/

namespace Report

/-- The lines for some answers as they are printed, in order. -/
def linesFor (g : Grader) (colour : Bool) (submissions : List Submission) : List String :=
  submissions.map fun s => render colour (gradeLine (g.grade s))

/-- How many of some printed lines begin with the mark of a verdict. -/
def marked (colour : Bool) (v : Verdict) (lines : List String) : Nat :=
  lines.countP fun line => (painted colour (markStyle v) (mark v)).toList.isPrefixOf line.toList

/-- No two marks begin a line together, with colour or without: they are equally long. -/
theorem painted_mark_prefix_iff {colour : Bool} {u v : Verdict} {rest : Text} :
    (painted colour (markStyle u) (mark u)).toList <+:
      (painted colour (markStyle v) (mark v)).toList ++ rest ↔ u = v := by
  constructor
  · intro h
    have hlength : ∀ v, (painted colour (markStyle v) (mark v)).toList.length =
        (painted colour (markStyle .correct) (mark .correct)).toList.length := by
      intro v
      cases colour <;> cases v <;> decide
    have hsame : (painted colour (markStyle u) (mark u)).toList =
        (painted colour (markStyle v) (mark v)).toList := by
      refine List.IsPrefix.eq_of_length ?_ ((hlength u).trans (hlength v).symm)
      exact List.prefix_of_prefix_length_le h (List.prefix_append _ rest)
        ((hlength u).trans (hlength v).symm).le
    revert hsame
    cases colour <;> cases u <;> cases v <;> decide
  · rintro rfl
    exact List.prefix_append _ rest

/-- As many lines bear a mark as there are grades of the verdict. -/
theorem marked_linesFor (v : Verdict) (g : Grader) (colour : Bool)
    (submissions : List Submission) : marked colour v (linesFor g colour submissions) =
      (g.gradeAll submissions).countP fun x => x.verdict = v := by
  unfold marked linesFor Grader.gradeAll
  rw [List.countP_map, List.countP_map]
  refine List.countP_congr fun s _ => ?_
  have hline : ∃ rest, (render colour (gradeLine (g.grade s))).toList =
      (painted colour (markStyle (g.grade s).verdict) (mark (g.grade s).verdict)).toList ++
        rest := by
    rw [render_gradeLine, gradeText]
    simp only [String.append_assoc]
    exact ⟨_, String.toList_append⟩
  obtain ⟨rest, hrest⟩ := hline
  rw [Function.comp_apply, Function.comp_apply, hrest, List.isPrefixOf_iff_prefix,
    painted_mark_prefix_iff, decide_eq_true_iff]
  exact eq_comm

end Report

/-! ## The run -/

namespace Session

open CommandLine (Invocation)
open Files (World)
open Report (linesFor marked render summary summaryText correctCount incompleteCount wrongCount)

/-- A run comes as far as grading these answers. -/
structure ReachesGrading (w : World) (i : Invocation) (g : Grader) (submissions : List Submission) :
    Prop where
  grader : ∃ text, readKeyText w i.key = .ok text ∧ Grader.ofText text i.block = .ok g
  list : i.list = false
  collected : Submission.collect w i.answers i.submissions (keyFromInput i) = .ok submissions

namespace ReachesGrading

variable {collect : Collector} {w : World} {i : Invocation} {terminal : Bool} {g : Grader}
  {submissions : List Submission}

/-- What the run leaves behind, apart from what it tells of itself. -/
theorem run_eq (h : ReachesGrading w i g submissions) (hcollect : collect.KeepsOrder) :
    (runBy collect w i terminal).exit = exitOf (g.gradeAll submissions) ∧
      (runBy collect w i terminal).stdout =
        render (terminal && !i.noColour) (reportOf i g (g.gradeAll submissions)) := by
  obtain ⟨text, htext, hgrader⟩ := h.grader
  rw [run_of_submissions htext hgrader h.list h.collected, g.gradeAllBy_eq hcollect]
  exact ⟨rfl, rfl⟩

/-- Neither the form of the report nor the order of grading decides whether a run grades. -/
theorem of_form (h : ReachesGrading w i g submissions) (json sequential : Bool) :
    ReachesGrading w { i with json := json, sequential := sequential } g submissions :=
  ⟨h.grader, h.list, h.collected⟩

/-- A key that has been read has a pattern in each block. -/
theorem patterns_ne_nil (h : ReachesGrading w i g submissions) : g.block.patterns ≠ [] := by
  obtain ⟨text, -, hgrader⟩ := h.grader
  have hkey := Key.wellFormed_of_read (Grader.read_of_ofText hgrader)
  exact (hkey.blocks g.block (List.mem_of_getElem? g.block_at)).patterns_ne_nil

end ReachesGrading

/-- The grades of some answers, the outcome of the run that grades them, and the outcomes of the
same run with the report in another form or the answers graded in another way. -/
structure MarksAgree (g : Grader) (submissions : List Submission) (json colour : Bool) (o : Outcome)
    (others : Bool → Bool → Outcome) : Prop where
  /-- There is something to grade. -/
  graded : 0 < (g.gradeAll submissions).length ∧
    (g.gradeAll submissions).length = submissions.length
  /-- No grade is both right and wrong. -/
  disjoint : ∀ x ∈ g.gradeAll submissions, ¬ (x.isCorrect = true ∧ x.isWrong = true)
  /-- What is left after the right ones and the wrong ones can be counted by subtraction. -/
  counted : correctCount (g.gradeAll submissions) + wrongCount (g.gradeAll submissions) ≤
      (g.gradeAll submissions).length ∧
    correctCount (g.gradeAll submissions) + incompleteCount (g.gradeAll submissions) +
      wrongCount (g.gradeAll submissions) = submissions.length
  /-- The report has a line for each answer, in order, and then a summary. -/
  printed : json = false → o.stdout = String.join (linesFor g colour submissions) ++
    render colour (summary g (g.gradeAll submissions))
  /-- As many lines bear each mark as there are grades to be counted. -/
  marks : marked colour .correct (linesFor g colour submissions) =
      correctCount (g.gradeAll submissions) ∧
    marked colour .incomplete (linesFor g colour submissions) =
      incompleteCount (g.gradeAll submissions) ∧
    marked colour .wrong (linesFor g colour submissions) = wrongCount (g.gradeAll submissions)
  /-- The summary writes how many lines bear each mark. -/
  summarized : render colour (summary g (g.gradeAll submissions)) =
    summaryText colour g submissions.length
      (marked colour .correct (linesFor g colour submissions))
      (marked colour .incomplete (linesFor g colour submissions))
      (marked colour .wrong (linesFor g colour submissions))
  /-- A grade is right if the first pattern accepts the answer. -/
  correct_single : g.block.options.anyOrder = false → ∃ p later, g.block.patterns = p :: later ∧
    ∀ s ∈ submissions, (g.grade s).isCorrect = true ↔
      Scoring.accepts (Scoring.compile? g.block.options p)
        (Scoring.prepare g.block.options s.text) = true
  /-- A grade is right if there is a point for each pattern, where these may come in any order. -/
  correct_anyOrder : g.block.options.anyOrder = true → g.block.patterns.length < 2 ^ 53 →
    ∀ s ∈ submissions, (g.grade s).isCorrect = true ↔
      g.pointsInAnyOrder s = g.block.patterns.length
  /-- The run succeeds if all grades are right. -/
  exit : o.exit = if ∀ x ∈ g.gradeAll submissions, x.isCorrect = true then 0 else 1
  /-- Neither the form of the report nor the way of grading changes the exit code. -/
  exit_others : ∀ json sequential, (others json sequential).exit = o.exit

/-- Marks, summary and exit code agree. -/
theorem run_marks_agree (collect : Collector) (w : World) (i : Invocation) (terminal : Bool)
    (g : Grader) (submissions : List Submission) (hcollect : collect.KeepsOrder)
    (h : ReachesGrading w i g submissions) :
    MarksAgree g submissions i.json (terminal && !i.noColour) (runBy collect w i terminal)
      fun json sequential =>
        runBy collect w { i with json := json, sequential := sequential } terminal where
  graded := by
    have hlength : (g.gradeAll submissions).length = submissions.length := List.length_map _
    rw [hlength]
    exact ⟨List.length_pos_iff.2 (Submission.ne_nil_of_collect h.collected), rfl⟩
  disjoint x _ := x.not_isCorrect_and_isWrong
  counted := by
    refine ⟨Report.correctCount_add_wrongCount_le _, ?_⟩
    rw [Report.counts_add, Grader.gradeAll, List.length_map]
  printed hjson := by
    have hlines : linesFor g (terminal && !i.noColour) submissions =
        ((g.gradeAll submissions).map Report.gradeLine).map (render (terminal && !i.noColour)) := by
      rw [Grader.gradeAll, List.map_map, List.map_map]
      rfl
    rw [(h.run_eq hcollect).2, reportOf, if_neg (by simp [hjson]), Report.ofGrades,
      Report.render_append, List.flatMap_def, Report.render_flatten, hlines]
  marks := by
    rw [Report.marked_linesFor, Report.marked_linesFor, Report.marked_linesFor]
    exact ⟨(Report.correctCount_eq _).symm, (Report.incompleteCount_eq _).symm,
      (Report.wrongCount_eq _).symm⟩
  summarized := by
    rw [Report.render_summary, Report.marked_linesFor, Report.marked_linesFor,
      Report.marked_linesFor, ← Report.correctCount_eq, ← Report.incompleteCount_eq,
      ← Report.wrongCount_eq, Grader.gradeAll, List.length_map]
  correct_single hany := by
    obtain ⟨p, later, hcons⟩ := List.exists_cons_of_ne_nil h.patterns_ne_nil
    exact ⟨p, later, hcons, fun s _ => g.isCorrect_grade_single_iff s hcons hany⟩
  correct_anyOrder hany hfew s _ :=
    g.isCorrect_grade_anyOrder_iff s h.patterns_ne_nil hany hfew
  exit := by
    rw [(h.run_eq hcollect).1]
    simp [exitOf, exitSuccess, exitFailure]
  exit_others json sequential := by
    rw [((h.of_form json sequential).run_eq hcollect).1, (h.run_eq hcollect).1]

/-- Each answer is graded on its own, and the grades are waited for in order. -/
def spawnAll : Collector := fun grade submissions =>
  (submissions.map fun s => Task.spawn fun _ => grade s).map Task.get

theorem keepsOrder_spawnAll : Collector.KeepsOrder spawnAll where
  getElem?_collect grade submissions k := by
    unfold spawnAll
    rw [List.map_map, List.getElem?_map]
    rfl

/-- A key with two patterns that may come in any order, and with feedback. -/
def pairText : Text := "[[a]][[b]]/O/\nfeedback=Again!".toList

/-- A tree with nothing but this key. -/
def pairOnly : World where
  root := .dir [("k".toList, .file (String.ofList pairText).toUTF8)]
  proper := .dir (by decide) fun e he => List.mem_singleton.1 he ▸ .file _
  current := []
  input := "".toUTF8

/-- The key that the text stands for. -/
def pairKey : Key :=
  ⟨[⟨100, ["a".toList, "b".toList], { anyOrder := true }⟩], { feedback := "Again!".toList }⟩

/-- The grader for its block. -/
def pairGrader : Grader := ⟨pairKey, 0, _, rfl⟩

theorem read_pairText : Key.read pairText = .ok pairKey := by
  have hblocks : Key.blocksOf pairText =
      ⟨[⟨100, ['O'], ["a".toList, "b".toList]⟩], .ok "feedback=Again!".toList⟩ := by cbv
  have hlines : Text.lines (Text.trim "feedback=Again!".toList) =
      ["feedback=Again!".toList] := by cbv
  unfold Key.read Settings.read
  rw [hblocks]
  simp only [hlines]
  rfl

/-- Three answers with two lines, one and none of those that are asked for. -/
def threeAnswers : Invocation :=
  ⟨"k".toList, [], ["b\na".toList, "a".toList, "c".toList], 0, false, false, false, true, 0⟩

/-- The answers as they are graded. -/
def threeSubmissions : List Submission :=
  [⟨"answer 1".toList, "b\na".toList⟩, ⟨"answer 2".toList, "a".toList⟩,
   ⟨"answer 3".toList, "c".toList⟩]

theorem reachesGrading_threeAnswers :
    ReachesGrading pairOnly threeAnswers pairGrader threeSubmissions := by
  have htext : readKeyText pairOnly threeAnswers.key = .ok pairText := by cbv
  have hgrader : Grader.ofText pairText threeAnswers.block = .ok pairGrader :=
    Grader.ofText_of_key read_pairText 0
  exact ⟨⟨_, htext, hgrader⟩, rfl, rfl⟩

/-- One of three answers is right and one partly so, which is not enough for success. -/
theorem run_marks_agree_three_answers :
    ReachesGrading pairOnly threeAnswers pairGrader threeSubmissions ∧
    (pairGrader.gradeAll threeSubmissions).map Grade.verdict = [.correct, .incomplete, .wrong] ∧
    linesFor pairGrader false threeSubmissions =
      ["✓ answer 1 1.00 (1.00 points)\n", "◐ answer 2 0.50 (0.50 points)\n",
        "✗ answer 3 0.00 (0.00 points)\n"] ∧
    (∀ v, marked false v (linesFor pairGrader false threeSubmissions) = 1) ∧
    render false (summary pairGrader (pairGrader.gradeAll threeSubmissions)) =
      "\n3 answers graded against block 1 (100%): 1 correct, 1 partial, 1 wrong\n" ++
        "Feedback: Again!\n" ∧
    (runBy spawnAll pairOnly threeAnswers true).stdout =
      "✓ answer 1 1.00 (1.00 points)\n◐ answer 2 0.50 (0.50 points)\n" ++
        "✗ answer 3 0.00 (0.00 points)\n" ++
        "\n3 answers graded against block 1 (100%): 1 correct, 1 partial, 1 wrong\n" ++
        "Feedback: Again!\n" ∧
    (runBy spawnAll pairOnly threeAnswers true).exit = 1 := by
  have hagree := run_marks_agree spawnAll pairOnly threeAnswers true pairGrader threeSubmissions
    keepsOrder_spawnAll reachesGrading_threeAnswers
  have hcolour : (true && !threeAnswers.noColour) = false := rfl
  rw [hcolour] at hagree
  have hverdicts : (pairGrader.gradeAll threeSubmissions).map Grade.verdict =
      [.correct, .incomplete, .wrong] := by decide +kernel
  have hlines : linesFor pairGrader false threeSubmissions =
      ["✓ answer 1 1.00 (1.00 points)\n", "◐ answer 2 0.50 (0.50 points)\n",
        "✗ answer 3 0.00 (0.00 points)\n"] := by decide +kernel
  have hmarked : ∀ v, marked false v (linesFor pairGrader false threeSubmissions) = 1 := by
    intro v
    rw [hlines]
    cases v <;> decide
  have hsummary : render false (summary pairGrader (pairGrader.gradeAll threeSubmissions)) =
      "\n3 answers graded against block 1 (100%): 1 correct, 1 partial, 1 wrong\n" ++
        "Feedback: Again!\n" := by
    rw [hagree.summarized, hmarked, hmarked, hmarked]
    decide +kernel
  refine ⟨reachesGrading_threeAnswers, hverdicts, hlines, hmarked, hsummary, ?_, ?_⟩
  · rw [hagree.printed rfl, hlines, hsummary]
    decide +kernel
  · rw [hagree.exit, if_neg]
    intro hall
    have hmem : Verdict.wrong ∈ [Verdict.correct, .incomplete, .wrong] := by decide
    rw [← hverdicts] at hmem
    obtain ⟨x, hx, hwrong⟩ := List.mem_map.1 hmem
    exact x.not_isCorrect_and_isWrong ⟨hall x hx, Grade.verdict_eq_wrong_iff.1 hwrong⟩

end Session
end AnswerKey
