import AnswerKey.Proofs.Files.World
import AnswerKey.Proofs.Grading
import AnswerKey.Proofs.Submission
import AnswerKey.Session

/-!
# The stages of a run

Six steps of a run can fail: the key is read and understood, the block is picked, the files are
found, the standard input is shared out, and the answers are read.  `FailsAt` says for each of them
when it fails, whatever the others do.  A run ends as the first of them that fails, and then it
prints no result (`run_ends_at_first_failure`); listing a key takes the first three steps only.
-/

namespace AnswerKey.Session

open CommandLine (Invocation)
open Files (World WalkError ReadError)
open Submission (Origin needed inputUses)

variable {collect : Collector} {w : World} {i : Invocation} {terminal : Bool} {f : Failure}
  {text : Text} {key : Key} {g : Grader} {files : List Text}

/-- The steps of a run that can fail. -/
inductive Stage where
  | readKey | parseKey | pickBlock | findFiles | shareInput | readAnswers
deriving DecidableEq, Repr

/-- How many steps come before a step. -/
def Stage.rank : Stage → Nat
  | readKey => 0
  | parseKey => 1
  | pickBlock => 2
  | findFiles => 3
  | shareInput => 4
  | readAnswers => 5

/-- The steps that a run takes if none of them fails. -/
def stages (i : Invocation) : List Stage :=
  [.readKey, .parseKey, .pickBlock] ++
    if i.list then [] else [.findFiles, .shareInput, .readAnswers]

/-- Whether the key is read from the standard input. -/
def keyFromInput (i : Invocation) : Bool :=
  i.key = Source.inputPath

/-- The ways in which each step can fail, given what it works on. -/
inductive FailsAt (w : World) (i : Invocation) : Stage → Failure → Prop where
  | file {cause : ReadError} (hpath : i.key ≠ Source.inputPath)
      (hread : w.readFile i.key = .error cause) : FailsAt w i .readKey (.unreadableKey i.key cause)
  | input {cause : ReadError} (hpath : i.key = Source.inputPath)
      (hread : w.readInput = .error cause) : FailsAt w i .readKey (.unreadableInput cause)
  | key {text : Text} {cause : KeyError} (htext : readKeyText w i.key = .ok text)
      (hread : Key.read text = .error cause) : FailsAt w i .parseKey (.invalidKey cause)
  | block {text : Text} {key : Key} (htext : readKeyText w i.key = .ok text)
      (hread : Key.read text = .ok key) (hblock : key.blocks.length ≤ i.block) :
      FailsAt w i .pickBlock (.noBlock i.block key.blocks.length)
  | walk {cause : WalkError} (hfiles : discover w i.submissions = .error cause) :
      FailsAt w i .findFiles (.walk cause)
  | twice {files : List Text} (hfiles : discover w i.submissions = .ok files)
      (huses : 1 < inputUses (needed i.answers files) + (keyFromInput i).toNat) :
      FailsAt w i .shareInput .inputTwice
  | answer {files : List Text} {before after : List Origin} {o : Origin} {f : Failure}
      (hfiles : discover w i.submissions = .ok files)
      (horigins : needed i.answers files = before ++ o :: after)
      (hbefore : ∀ p ∈ before, ∃ s, p.read w = .ok s) (hread : o.read w = .error f) :
      FailsAt w i .readAnswers f

/-- A step that a run takes fails, and none before it. -/
structure FirstFailure (w : World) (i : Invocation) (stage : Stage) (f : Failure) : Prop where
  taken : stage ∈ stages i
  fails : FailsAt w i stage f
  first : ∀ s ∈ stages i, s.rank < stage.rank → ∀ f, ¬ FailsAt w i s f

/-! ## One step at a time -/

theorem readKeyText_of_file (h : i.key ≠ Source.inputPath) :
    readKeyText w i.key = (w.readFile i.key).mapError (.unreadableKey i.key) := by
  unfold readKeyText Source.ofPath
  rw [if_neg h]
  rfl

theorem readKeyText_of_input (h : i.key = Source.inputPath) :
    readKeyText w i.key = w.readInput.mapError .unreadableInput := by
  unfold readKeyText Source.ofPath
  rw [if_pos h]
  rfl

theorem failsAt_readKey_iff : FailsAt w i .readKey f ↔ readKeyText w i.key = .error f := by
  constructor
  · intro h
    cases h with
    | file hpath hread => rw [readKeyText_of_file hpath, hread]; rfl
    | input hpath hread => rw [readKeyText_of_input hpath, hread]; rfl
  · intro h
    by_cases hpath : i.key = Source.inputPath
    · rw [readKeyText_of_input hpath] at h
      cases hread : w.readInput with
      | ok text => rw [hread] at h; cases h
      | error cause => rw [hread] at h; cases h; exact .input hpath hread
    · rw [readKeyText_of_file hpath] at h
      cases hread : w.readFile i.key with
      | ok text => rw [hread] at h; cases h
      | error cause => rw [hread] at h; cases h; exact .file hpath hread

theorem exists_text (h : ∀ f, ¬ FailsAt w i .readKey f) :
    ∃ text, readKeyText w i.key = .ok text := by
  cases htext : readKeyText w i.key with
  | ok text => exact ⟨text, rfl⟩
  | error f => exact absurd (failsAt_readKey_iff.2 htext) (h f)

theorem exists_key (htext : readKeyText w i.key = .ok text) (h : ∀ f, ¬ FailsAt w i .parseKey f) :
    ∃ key, Key.read text = .ok key := by
  cases hread : Key.read text with
  | ok key => exact ⟨key, rfl⟩
  | error cause => exact absurd (.key htext hread) (h _)

/-- Where the block is there, so is its grader. -/
theorem exists_grader (htext : readKeyText w i.key = .ok text) (hread : Key.read text = .ok key)
    (h : ∀ f, ¬ FailsAt w i .pickBlock f) :
    ∃ g, Grader.ofText text i.block = .ok g ∧ g.key = key := by
  rw [Grader.ofText_of_key hread]
  refine Grader.ofKey_of_lt (Nat.lt_of_not_le fun hblock => ?_)
  exact h _ (.block htext hread hblock)

theorem exists_files (h : ∀ f, ¬ FailsAt w i .findFiles f) :
    ∃ files, discover w i.submissions = .ok files := by
  cases hfiles : discover w i.submissions with
  | ok files => exact ⟨files, rfl⟩
  | error cause => exact absurd (.walk hfiles) (h _)

/-- A standard input that is not asked for twice can be planned for. -/
theorem plan_of_shared (hfiles : discover w i.submissions = .ok files)
    (h : ∀ f, ¬ FailsAt w i .shareInput f) :
    Submission.plan w i.answers i.submissions (keyFromInput i) = .ok (needed i.answers files) := by
  rw [Submission.plan_of_discover hfiles, if_neg]
  exact fun huses => h _ (.twice hfiles huses)

/-- Where the answers are planned for, they are read one after the other. -/
theorem collect_of_plan {origins : List Origin}
    (h : Submission.plan w i.answers i.submissions (keyFromInput i) = .ok origins) :
    Submission.collect w i.answers i.submissions (keyFromInput i) =
      origins.mapM (Origin.read w) := by
  unfold Submission.collect
  rw [h]

/-- Where no stage before the reading fails and the reading does not, there are answers. -/
theorem exists_submissions (hfiles : discover w i.submissions = .ok files)
    (hshared : ∀ f, ¬ FailsAt w i .shareInput f) (h : ∀ f, ¬ FailsAt w i .readAnswers f) :
    ∃ submissions,
      Submission.collect w i.answers i.submissions (keyFromInput i) = .ok submissions := by
  rw [collect_of_plan (plan_of_shared hfiles hshared)]
  cases hread : (needed i.answers files).mapM (Origin.read w) with
  | ok submissions => exact ⟨submissions, rfl⟩
  | error f =>
    obtain ⟨before, o, after, horigins, hbefore, ho⟩ := Traversal.mapM_eq_error_iff.1 hread
    exact absurd (.answer hfiles horigins hbefore ho) (h f)

/-! ## The run -/

/-- A key that cannot be read ends the run before anything is said about it. -/
theorem run_of_no_text (h : readKeyText w i.key = .error f) :
    runBy collect w i terminal = failed i f [] := by
  unfold runBy
  rw [h]

/-- A key that is refused or has no such block ends the run. -/
theorem run_of_no_grader (htext : readKeyText w i.key = .ok text)
    (h : Grader.ofText text i.block = .error f) :
    runBy collect w i terminal = failed i f (readingEvents text) := by
  unfold runBy
  rw [htext]
  simp only [h]

/-- With a grader at hand the run goes on, in colour on a terminal unless that is turned off. -/
theorem run_of_grader (htext : readKeyText w i.key = .ok text)
    (h : Grader.ofText text i.block = .ok g) :
    runBy collect w i terminal =
      gradeWith collect w i (terminal && !i.noColour) (readingEvents text) g := by
  unfold runBy
  rw [htext]
  simp only [h]

/-- A run that lists the key ends there, whatever the answers are. -/
theorem run_of_list (htext : readKeyText w i.key = .ok text)
    (h : Grader.ofText text i.block = .ok g) (hlist : i.list = true) :
    runBy collect w i terminal =
      ⟨exitSuccess, Report.render (terminal && !i.noColour) (Report.listing g.key), "",
        readingEvents text⟩ := by
  rw [run_of_grader htext h, gradeWith, if_pos hlist]

theorem decide_source_eq (i : Invocation) :
    decide (Source.ofPath i.key = .input) = keyFromInput i :=
  decide_eq_decide.2 Source.ofPath_eq_input_iff

theorem run_of_no_submissions (htext : readKeyText w i.key = .ok text)
    (h : Grader.ofText text i.block = .ok g) (hlist : i.list = false)
    (hcollect : Submission.collect w i.answers i.submissions (keyFromInput i) = .error f) :
    ∃ events, runBy collect w i terminal = failed i f events := by
  refine ⟨readingEvents text ++ walkingEvents w i.submissions, ?_⟩
  rw [run_of_grader htext h, gradeWith, if_neg (by simp [hlist]), decide_source_eq]
  simp only [hcollect]

/-- A run that comes to its end prints the report and exits by the grades. -/
theorem run_of_submissions {submissions : List Submission} (htext : readKeyText w i.key = .ok text)
    (h : Grader.ofText text i.block = .ok g) (hlist : i.list = false)
    (hcollect : Submission.collect w i.answers i.submissions (keyFromInput i) = .ok submissions) :
    runBy collect w i terminal =
      ⟨exitOf (g.gradeAllBy collect (!i.sequential) submissions),
        Report.render (terminal && !i.noColour)
          (reportOf i g (g.gradeAllBy collect (!i.sequential) submissions)), "",
        readingEvents text ++ walkingEvents w i.submissions ++ gradingEvents g submissions⟩ := by
  rw [run_of_grader htext h, gradeWith, if_neg (by simp [hlist]), decide_source_eq]
  simp only [hcollect]

/-! ## Failing -/

/-- Only a key that is none is reported as such. -/
theorem FailsAt.eq_parseKey_iff {stage : Stage} (h : FailsAt w i stage f) :
    stage = .parseKey ↔ ∃ cause, f = .invalidKey cause := by
  cases h with
  | key htext hread => exact iff_of_true rfl ⟨_, rfl⟩
  | answer hfiles horigins hbefore hread =>
    refine iff_of_false (by simp) ?_
    rintro ⟨cause, rfl⟩
    unfold Submission.Origin.read at hread
    split at hread
    · cases hread
    · split at hread <;> cases hread
  | file | input | block | walk | twice => exact iff_of_false (by simp) (by simp)

/-- A key that is refused is reported under its path, with an exit code of its own. -/
theorem failed_of_invalidKey (cause : KeyError) (events : List Log.Event) :
    failed i (.invalidKey cause) events = ⟨exitInvalid, "",
      String.ofList i.key ++ ": " ++ (Failure.invalidKey cause).message ++ "\n", events⟩ :=
  rfl

theorem failed_of_other (h : ∀ cause, f ≠ .invalidKey cause) (events : List Log.Event) :
    failed i f events = ⟨exitFailure, "", f.report, events⟩ := by
  cases f with
  | invalidKey cause => exact absurd rfl (h cause)
  | _ => rfl

/-- The steps that come before a step that a run takes are taken too. -/
theorem mem_stages_of_rank_lt {stage s : Stage} (h : stage ∈ stages i) (hlt : s.rank < stage.rank) :
    s ∈ stages i := by
  cases hlist : i.list <;> cases stage <;> cases s <;>
    simp_all [stages, Stage.rank]

/-- The steps after the third are taken only by a run that does not list the key. -/
theorem list_eq_false_of_mem {stage : Stage} (h : stage ∈ stages i) (hlate : 3 ≤ stage.rank) :
    i.list = false := by
  cases hlist : i.list with
  | false => rfl
  | true =>
    simp only [stages, hlist, if_true, List.append_nil, List.mem_cons, List.not_mem_nil,
      or_false] at h
    rcases h with rfl | rfl | rfl <;> exact absurd hlate (by decide)

theorem collect_of_walk {cause : WalkError} (h : discover w i.submissions = .error cause) :
    Submission.collect w i.answers i.submissions (keyFromInput i) = .error (.walk cause) := by
  unfold Submission.collect Submission.plan
  rw [h]

theorem collect_of_twice (hfiles : discover w i.submissions = .ok files)
    (huses : 1 < inputUses (needed i.answers files) + (keyFromInput i).toNat) :
    Submission.collect w i.answers i.submissions (keyFromInput i) = .error .inputTwice := by
  unfold Submission.collect
  rw [Submission.plan_of_discover hfiles, if_pos huses]

/-- A run that comes as far as the answers ends as they do. -/
theorem run_of_late (hlist : i.list = false)
    (hbefore : ∀ s : Stage, s.rank < 3 → ∀ f, ¬ FailsAt w i s f)
    (hcollect : Submission.collect w i.answers i.submissions (keyFromInput i) = .error f) :
    ∃ events, runBy collect w i terminal = failed i f events := by
  obtain ⟨text, htext⟩ := exists_text (hbefore .readKey (by decide))
  obtain ⟨key, hread⟩ := exists_key htext (hbefore .parseKey (by decide))
  obtain ⟨g, hg, -⟩ := exists_grader htext hread (hbefore .pickBlock (by decide))
  exact run_of_no_submissions htext hg hlist hcollect

/-- A run ends as its first step that fails. -/
theorem run_of_firstFailure {stage : Stage} (h : FirstFailure w i stage f) :
    ∃ events, runBy collect w i terminal = failed i f events := by
  have hbefore : ∀ s : Stage, s.rank < stage.rank → ∀ f, ¬ FailsAt w i s f :=
    fun s hlt => h.first s (mem_stages_of_rank_lt h.taken hlt) hlt
  have hfails := h.fails
  cases stage with
  | readKey => exact ⟨[], run_of_no_text (failsAt_readKey_iff.1 hfails)⟩
  | parseKey =>
    cases hfails with
    | key htext hread => exact ⟨_, run_of_no_grader htext (by rw [Grader.ofText, hread])⟩
  | pickBlock =>
    cases hfails with
    | block htext hread hblock =>
      exact ⟨_, run_of_no_grader htext (by rw [Grader.ofText_of_key hread, Grader.ofKey_of_le hblock])⟩
  | findFiles =>
    -- from here on the answers are collected
    have hlist := list_eq_false_of_mem h.taken (by decide)
    cases hfails with
    | walk hfiles => exact run_of_late hlist hbefore (collect_of_walk hfiles)
  | shareInput =>
    have hlist := list_eq_false_of_mem h.taken (by decide)
    cases hfails with
    | twice hfiles huses =>
      exact run_of_late hlist (fun s hs => hbefore s (Nat.lt_trans hs (by decide)))
        (collect_of_twice hfiles huses)
  | readAnswers =>
    have hlist := list_eq_false_of_mem h.taken (by decide)
    cases hfails with
    | answer hfiles horigins hprevious hread =>
      have hshared := plan_of_shared hfiles (hbefore .shareInput (by decide))
      refine run_of_late hlist (fun s hs => hbefore s (Nat.lt_trans hs (by decide))) ?_
      rw [collect_of_plan hshared, Traversal.mapM_eq_error_iff]
      exact ⟨_, _, _, horigins, hprevious, hread⟩

/-- Either some step is the first to fail, or none fails. -/
theorem exists_firstFailure_or (w : World) (i : Invocation) :
    (∃ stage f, FirstFailure w i stage f) ∨ ∀ s ∈ stages i, ∀ f, ¬ FailsAt w i s f := by
  by_cases hfirst : ∃ stage f, FirstFailure w i stage f
  · exact .inl hfirst
  · right
    intro s
    induction hrank : s.rank using Nat.strongRecOn generalizing s with
    | ind n ih =>
      subst hrank
      intro htaken f hfails
      have hearlier : ∀ t ∈ stages i, t.rank < s.rank → ∀ f, ¬ FailsAt w i t f :=
        fun t ht hlt => ih t.rank hlt t rfl ht
      exact hfirst ⟨s, f, htaken, hfails, hearlier⟩

/-- How a run ends that fails at a step. -/
structure EndsAs (i : Invocation) (stage : Stage) (f : Failure) (o : Outcome) : Prop where
  stdout : o.stdout = ""
  stderr : o.stderr =
    if stage = .parseKey then String.ofList i.key ++ ": " ++ f.message ++ "\n" else f.report
  invalid : o.exit = 2 ↔ stage = .parseKey
  failure : o.exit = 1 ↔ stage ≠ .parseKey

/-- A failure is reported as its stage asks for. -/
theorem endsAs_failed {stage : Stage} (h : FailsAt w i stage f) (events : List Log.Event) :
    EndsAs i stage f (failed i f events) := by
  by_cases hstage : stage = .parseKey
  · obtain ⟨cause, rfl⟩ := h.eq_parseKey_iff.1 hstage
    rw [failed_of_invalidKey]
    have hexit : exitInvalid ≠ 1 := by decide
    exact ⟨rfl, (if_pos hstage).symm, iff_of_true rfl hstage,
      iff_of_false hexit (not_not_intro hstage)⟩
  · have hother : ∀ cause, f ≠ .invalidKey cause :=
      fun cause hf => hstage (h.eq_parseKey_iff.2 ⟨cause, hf⟩)
    rw [failed_of_other hother]
    have hexit : exitFailure ≠ 2 := by decide
    exact ⟨rfl, (if_neg hstage).symm, iff_of_false hexit hstage, iff_of_true rfl hstage⟩

/-- Listing looks at nothing but the text of the key. -/
theorem run_eq_of_list {w' : World} {i' : Invocation} (hlist : i.list = true)
    (hlist' : i'.list = true) (hcolour : i'.noColour = i.noColour)
    (htext : readKeyText w i.key = .ok text) (htext' : readKeyText w' i'.key = .ok text)
    (h : ∀ s ∈ stages i, ∀ f, ¬ FailsAt w i s f)
    (h' : ∀ s ∈ stages i', ∀ f, ¬ FailsAt w' i' s f) :
    runBy collect w' i' terminal = runBy collect w i terminal := by
  obtain ⟨key, hread⟩ := exists_key htext (h .parseKey (by simp [stages]))
  obtain ⟨g, hg, hkey⟩ := exists_grader htext hread (h .pickBlock (by simp [stages]))
  obtain ⟨g', hg', hkey'⟩ := exists_grader htext' hread (h' .pickBlock (by simp [stages]))
  rw [run_of_list htext hg hlist, run_of_list htext' hg' hlist', hkey, hkey', hcolour]

/-- What is to be graded, and the standard input unless the key is read from it, do not count if the
key is listed. -/
theorem run_list_of_input (hlist : i.list = true) (input : ByteArray)
    (hinput : i.key = Source.inputPath → input = w.input) (submissions answers : List Text) :
    runBy collect { w with input := input }
        { i with submissions := submissions, answers := answers } terminal =
      runBy collect w i terminal := by
  have htext : readKeyText { w with input := input } i.key = readKeyText w i.key := by
    by_cases hpath : i.key = Source.inputPath
    · rw [hinput hpath]
    · rw [readKeyText_of_file hpath, readKeyText_of_file hpath, World.readFile_input]
  unfold runBy gradeWith failed
  simp only [htext, hlist, if_true]

/-- A run ends as its first step that fails, whatever the later ones would do; it prints no result
then, and only a key that is none has an exit code of its own.  A run that lists the key and does
not fail depends on the text of the key only. -/
theorem run_ends_at_first_failure (collect : Collector) (w : World) (i : Invocation)
    (terminal : Bool) :
    ((∃ stage f, FirstFailure w i stage f) ∨ ∀ s ∈ stages i, ∀ f, ¬ FailsAt w i s f) ∧
    (∀ stage f, FirstFailure w i stage f → EndsAs i stage f (runBy collect w i terminal)) ∧
    ((∀ s ∈ stages i, ∀ f, ¬ FailsAt w i s f) → ∃ text g,
      readKeyText w i.key = .ok text ∧ Grader.ofText text i.block = .ok g ∧
      if i.list then
        runBy collect w i terminal =
          ⟨0, Report.render (terminal && !i.noColour) (Report.listing g.key), "",
            readingEvents text⟩ ∧
        ∀ (w' : World) (i' : Invocation), i'.list = true → i'.noColour = i.noColour →
          readKeyText w' i'.key = .ok text → (∀ s ∈ stages i', ∀ f, ¬ FailsAt w' i' s f) →
          runBy collect w' i' terminal = runBy collect w i terminal
      else
        ∃ submissions,
          Submission.collect w i.answers i.submissions (keyFromInput i) = .ok submissions ∧
          runBy collect w i terminal =
            ⟨exitOf (g.gradeAllBy collect (!i.sequential) submissions),
              Report.render (terminal && !i.noColour)
                (reportOf i g (g.gradeAllBy collect (!i.sequential) submissions)), "",
              readingEvents text ++ walkingEvents w i.submissions ++
                gradingEvents g submissions⟩) ∧
    (i.list = true → ∀ (input : ByteArray) (submissions answers : List Text),
      (i.key = Source.inputPath → input = w.input) →
      runBy collect { w with input := input }
          { i with submissions := submissions, answers := answers } terminal =
        runBy collect w i terminal) := by
  refine ⟨exists_firstFailure_or w i, ?_, ?_, ?_⟩
  -- some step fails
  · intro stage f h
    obtain ⟨events, hrun⟩ : ∃ events, runBy collect w i terminal = failed i f events :=
      run_of_firstFailure h
    rw [hrun]
    exact endsAs_failed h.fails events
  -- no step fails
  · intro h
    obtain ⟨text, htext⟩ := exists_text (h .readKey (by simp [stages]))
    obtain ⟨key, hread⟩ := exists_key htext (h .parseKey (by simp [stages]))
    obtain ⟨g, hg, -⟩ := exists_grader htext hread (h .pickBlock (by simp [stages]))
    refine ⟨text, g, htext, hg, ?_⟩
    cases hlist : i.list with
    -- a listed key says all that there is to print
    | true =>
      rw [if_pos rfl]
      exact ⟨run_of_list htext hg hlist, fun w' i' hlist' hcolour htext' h' =>
        run_eq_of_list hlist hlist' hcolour htext htext' h h'⟩
    | false =>
      rw [if_neg (by decide)]
      -- all the later steps are taken, too
      have hlate : ∀ s : Stage, s ∈ stages i := by
        intro s
        cases s <;> simp [stages, hlist]
      obtain ⟨files, hfiles⟩ := exists_files (h .findFiles (hlate _))
      obtain ⟨submissions, hcollect⟩ :=
        exists_submissions hfiles (h .shareInput (hlate _)) (h .readAnswers (hlate _))
      exact ⟨submissions, hcollect, run_of_submissions htext hg hlist hcollect⟩
  · intro hlist input submissions answers hinput
    exact run_list_of_input hlist input hinput submissions answers

/-- A tree with nothing but a key of one block. -/
def keyOnly : World where
  root := .dir [("k".toList, .file "[[a]]//".toUTF8)]
  proper := .dir (by decide) fun e he => List.mem_singleton.1 he ▸ .file _
  current := []
  input := "a".toUTF8

theorem readKeyText_keyOnly : readKeyText keyOnly "k".toList = .ok "[[a]]//".toList := by cbv

/-- The block of the key. -/
theorem read_letter : ∃ key, Key.read "[[a]]//".toList = .ok key ∧
    key.blocks = [⟨100, ["a".toList], {}⟩] := by
  have hblocks : Key.blocksOf "[[a]]//".toList = ⟨[⟨100, [], ["a".toList]⟩], .ok []⟩ := by cbv
  unfold Key.read
  rw [hblocks]
  exact ⟨_, rfl, rfl⟩

/-- A block that is not there, the standard input twice, and a file that is not there. -/
def askedTooMuch : Invocation :=
  ⟨"k".toList, ["-".toList, "-".toList, "b".toList], [], 1, false, false, false, false, 0⟩

/-- Three steps fail, and the run ends as the first of them. -/
theorem run_ends_at_missing_block :
    FirstFailure keyOnly askedTooMuch .pickBlock (.noBlock 1 1) ∧
    FailsAt keyOnly askedTooMuch .shareInput .inputTwice ∧
    FailsAt keyOnly askedTooMuch .readAnswers (.unreadableSubmission "b".toList .noEntry) ∧
    EndsAs askedTooMuch .pickBlock (.noBlock 1 1) (run keyOnly askedTooMuch true) := by
  have htext : readKeyText keyOnly askedTooMuch.key = .ok "[[a]]//".toList := readKeyText_keyOnly
  obtain ⟨key, hread, hblocks⟩ := read_letter
  have hcount : key.blocks.length = 1 := by
    rw [hblocks]
    rfl
  have hblock : FailsAt keyOnly askedTooMuch .pickBlock (.noBlock 1 1) := by
    have h := FailsAt.block (i := askedTooMuch) htext hread (by rw [hcount]; decide)
    rwa [hcount] at h
  have hfirst : FirstFailure keyOnly askedTooMuch .pickBlock (.noBlock 1 1) := by
    refine ⟨by decide, hblock, ?_⟩
    intro s _ hlt f h
    cases s with
    | readKey =>
      rw [failsAt_readKey_iff, htext] at h
      cases h
    | parseKey =>
      cases h with
      | key htext' hread' =>
        rw [← Except.ok.inj (htext.symm.trans htext'), hread] at hread'
        cases hread'
    | _ => exact absurd hlt (by decide)
  have hfiles : discover keyOnly askedTooMuch.submissions =
      .ok ["-".toList, "-".toList, "b".toList] := by cbv
  have horigins : needed askedTooMuch.answers ["-".toList, "-".toList, "b".toList] =
      [.ofPath "-".toList, .ofPath "-".toList] ++ .ofPath "b".toList :: [] := rfl
  have hdash : (Origin.ofPath "-".toList).read keyOnly = .ok ⟨"-".toList, "a".toList⟩ := by cbv
  refine ⟨hfirst, .twice hfiles (by decide), ?_, ?_⟩
  · refine .answer hfiles horigins ?_ (by cbv)
    intro o ho
    rcases List.mem_pair.1 ho with rfl | rfl <;> exact ⟨_, hdash⟩
  · exact (run_ends_at_first_failure List.map keyOnly askedTooMuch true).2.1 _ _ hfirst

end AnswerKey.Session
