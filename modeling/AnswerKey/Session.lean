import AnswerKey.CommandLine.Help
import AnswerKey.CommandLine.Reader
import AnswerKey.Log.Filter.Reader
import AnswerKey.Report.Grades
import AnswerKey.Report.Listing
import AnswerKey.Report.Record

/-!
# A run of the program

A run reads the key, picks the block, and then either lists the key or reads the
answers, grades them and reports.  The first step that fails ends it.  What a run
does depends only on the world it finds and on what it was asked for.
-/

namespace AnswerKey.Session

open CommandLine (Invocation Refusal)
open Files (World)
open Log (Event)

/-- What a run leaves behind. -/
structure Outcome where
  exit : UInt8
  stdout : String
  stderr : String
  /-- What the run told of itself, in order. -/
  events : List Event

/-! ## Exit codes -/

/-- Every answer is correct, or the key was listed. -/
def exitSuccess : UInt8 := 0

/-- Some answer is not correct, or something could not be read. -/
def exitFailure : UInt8 := 1

/-- The key is none, or the arguments were refused. -/
def exitInvalid : UInt8 := 2

/-- The exit code after grading. -/
def exitOf (grades : List Grade) : UInt8 :=
  if grades.all Grade.isCorrect then exitSuccess else exitFailure

/-! ## Events -/

/-- The events while a key is read: each block, and the settings if there was no error. -/
def readingEvents (text : Text) : List Event :=
  let blocks := Key.blocksOf text
  let settings :=
    match blocks.remaining with
    | .ok rest => (Settings.names (Text.trim rest)).map Event.settingRead
    | .error _ => []
  (blocks.texts.map fun b => Event.blockRead b.percent b.letters b.patterns.length) ++ settings

/-- The events while directories are walked, up to the first that cannot be. -/
def walkingEvents (w : World) : List Text → List Event
  | [] => []
  | path :: paths =>
    match Expansion.ofPath w path with
    | .itself _ => walkingEvents w paths
    | .directory path (.ok files) =>
      .directoryWalked path files.length :: walkingEvents w paths
    | .directory _ (.error _) => []

/-- The events while a pattern is consulted. -/
def patternEvents (o : Options) (pattern : Text) : List Event :=
  .patternExpanded pattern (Pattern.expand o pattern)
    :: if (Scoring.compile? o pattern).isSome then [] else [.patternRejected]

/-- The events while some answers are graded. -/
def gradingEvents (g : Grader) (submissions : List Submission) : List Event :=
  .gradingStarted submissions.length g.index
    :: submissions.flatMap fun _ =>
      (Scoring.consulted g.block).flatMap (patternEvents g.block.options)

/-! ## The run -/

/-- The outcome where a step failed. -/
def failed (i : Invocation) (f : Failure) (events : List Event) : Outcome :=
  match f with
  | .invalidKey _ => ⟨exitInvalid, "", String.ofList i.key ++ ": " ++ f.message ++ "\n", events⟩
  | _ => ⟨exitFailure, "", f.report, events⟩

/-- The report on some grades, in the form that was asked for. -/
def reportOf (i : Invocation) (g : Grader) (grades : List Grade) : List Report.Command :=
  if i.json then Report.records g grades else Report.ofGrades g grades

section
variable (collect : Collector)

/-- The outcome once there is a grader. -/
def gradeWith (w : World) (i : Invocation) (colour : Bool) (events : List Event) (g : Grader) :
    Outcome :=
  if i.list then
    ⟨exitSuccess, Report.render colour (Report.listing g.key), "", events⟩
  else
    let events := events ++ walkingEvents w i.submissions
    match Submission.collect w i.answers i.submissions (Source.ofPath i.key = .input) with
    | .error f => failed i f events
    | .ok submissions =>
      let grades := g.gradeAllBy collect (!i.sequential) submissions
      ⟨exitOf grades, Report.render colour (reportOf i g grades), "",
        events ++ gradingEvents g submissions⟩

/-- The outcome of a run where `collect` grades several answers at a time.  `terminal` says whether
the report goes to a terminal. -/
def runBy (w : World) (i : Invocation) (terminal : Bool) : Outcome :=
  match readKeyText w i.key with
  | .error f => failed i f []
  | .ok text =>
    let events := readingEvents text
    match Grader.ofText text i.block with
    | .error f => failed i f events
    | .ok g => gradeWith collect w i (terminal && !i.noColour) events g

end

/-- The outcome of a run that grades one answer after the other. -/
def run (w : World) (i : Invocation) (terminal : Bool) : Outcome :=
  runBy List.map w i terminal

/-- Whether a run reads the standard input. -/
def readsInput (w : World) (i : Invocation) : Bool :=
  Source.ofPath i.key = .input ||
    match readKeyText w i.key with
    | .error _ => false
    | .ok text =>
      match Grader.ofText text i.block, Submission.plan w i.answers i.submissions false with
      | .ok _, .ok origins => !i.list && 0 < Submission.inputUses origins
      | _, _ => false

/-- The outcome where the arguments were refused. -/
def refused (r : Refusal) : Outcome :=
  match r.fault? with
  | some fault => ⟨exitInvalid, "", fault, []⟩
  | none =>
    let text := if r = .version then CommandLine.versionText else CommandLine.helpText
    ⟨exitSuccess, text, "", []⟩

end AnswerKey.Session
