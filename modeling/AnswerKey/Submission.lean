import AnswerKey.Failure

/-!
# Submissions

Answers are given on the command line, in files, in directories of files, or on
the standard input, which can be read only once.  `plan` settles what is to be
read before anything is read, and `collect` reads it.
-/

namespace AnswerKey

open Files (World WalkError ReadError)

/-- Where a text comes from. -/
inductive Source where
  | given (text : Text)
  | file (path : Text)
  /-- The standard input. -/
  | input
deriving DecidableEq, Repr

namespace Source

/-- The path that stands for the standard input. -/
def inputPath : Text := ['-']

/-- The source that a path stands for. -/
def ofPath (path : Text) : Source :=
  if path = inputPath then input else file path

/-- The text from a source. -/
def read (w : World) : Source → Except ReadError Text
  | given text => .ok text
  | file path => w.readFile path
  | input => w.readInput

end Source

/-- The text of the key at a path. -/
def readKeyText (w : World) (path : Text) : Except Failure Text :=
  ((Source.ofPath path).read w).mapError fun cause =>
    if Source.ofPath path = .input then .unreadableInput cause else .unreadableKey path cause

/-- What a path among the submissions stands for. -/
inductive Expansion where
  | itself (path : Text)
  | directory (path : Text) (found : Except WalkError (List Text))

namespace Expansion

/-- The expansion of a path. -/
def ofPath (w : World) (path : Text) : Expansion :=
  match w.entries? path with
  | none => itself path
  | some (place, entries) => directory path (Files.Walk.files w path place entries)

/-- The files that an expansion gives. -/
def files : Expansion → Except WalkError (List Text)
  | itself path => .ok [path]
  | directory _ found => found

end Expansion

/-- The files that some paths stand for, in the order of the paths. -/
def discover (w : World) (paths : List Text) : Except WalkError (List Text) :=
  (paths.mapM fun path => (Expansion.ofPath w path).files).map List.flatten

/-- An answer and the name it goes by. -/
structure Submission where
  name : Text
  text : Text
deriving DecidableEq, Repr

namespace Submission

/-- The name of an answer that is to be read, and where from. -/
structure Origin where
  name : Text
  source : Source
deriving DecidableEq, Repr

namespace Origin

/-- The origin of the answer given as number `index`, counted from zero. -/
def ofGiven (index : Nat) (text : Text) : Origin :=
  ⟨"answer ".toList ++ Nat.toDigits 10 (index + 1), .given text⟩

/-- The origin of an answer at a path. -/
def ofPath (path : Text) : Origin :=
  ⟨path, .ofPath path⟩

/-- The origin of the only answer where none was named. -/
def fallback : Origin :=
  ⟨"<stdin>".toList, .input⟩

/-- The answer itself. -/
def read (w : World) (o : Origin) : Except Failure Submission :=
  match o.source.read w with
  | .ok text => .ok ⟨o.name, text⟩
  | .error cause =>
    .error (if o.source = .input then .unreadableInput cause else .unreadableSubmission o.name cause)

end Origin

/-- How often the standard input is to be read. -/
def inputUses (origins : List Origin) : Nat :=
  origins.countP fun o => o.source = .input

/-- What is to be read: the answers given, then the files; the standard input if these are none.
`keyFromInput` says that the standard input has already been read. -/
def plan (w : World) (answers paths : List Text) (keyFromInput : Bool) :
    Except Failure (List Origin) :=
  match discover w paths with
  | .error e => .error (.walk e)
  | .ok files =>
    let origins := answers.mapIdx Origin.ofGiven ++ files.map Origin.ofPath
    -- directories without files count as nothing, so the fallback may take their place
    let origins := if origins = [] then [Origin.fallback] else origins
    if inputUses origins + keyFromInput.toNat > 1 then .error .inputTwice else .ok origins

/-- All answers, in order. -/
def collect (w : World) (answers paths : List Text) (keyFromInput : Bool) :
    Except Failure (List Submission) :=
  match plan w answers paths keyFromInput with
  | .error e => .error e
  | .ok origins => origins.mapM (Origin.read w)

end Submission
end AnswerKey
