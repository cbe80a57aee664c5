import AnswerKey.CommandLine
import AnswerKey.Number.Natural

/-!
# Reading the command line

Arguments are read from left to right.  The first that is no option names the key,
the others name submissions.  A path, or the value that stands in an argument of its
own, is checked only when the next option or a path of another kind comes along, so
that an unknown argument behind it is found first.
-/

namespace AnswerKey.CommandLine

/-! ## Arguments by their form -/

/-- The forms of an argument. -/
inductive Argument where
  /-- Two hyphens, behind which there are no options. -/
  | divider
  | long (word : Text) (value : Option Text)
  | short (letters : Text)
  | plain (text : Text)
deriving DecidableEq, Repr

namespace Argument

/-- A long option and the value behind its first equals sign, if it has one. -/
def ofLong (t : Text) : Argument :=
  match t.dropWhile (· ≠ '=') with
  | [] => long t none
  | _ :: value => long (t.takeWhile (· ≠ '=')) (some value)

/-- The form of an argument.  A single hyphen is no option. -/
def ofText : Text → Argument
  | ['-', '-'] => divider
  | '-' :: '-' :: t => ofLong t
  | '-' :: c :: t => short (c :: t)
  | t => plain t

end Argument

/-! ## Progress -/

/-- What has been read and not been checked. -/
inductive Pending where
  | nothing
  | key (path : Text)
  | submissions (paths : List Text)
  | setting (s : Setting) (value : Text)
  /-- The value is still to come. -/
  | awaiting (s : Setting)
deriving DecidableEq, Repr

/-- What has been read so far. -/
structure Progress where
  key : Option Text := none
  submissions : List Text := []
  answers : List Text := []
  block : Option Nat := none
  toggles : List Toggle := []
  verbosity : Nat := 0
  pending : Pending := .nothing
  /-- Whether the divider has been read. -/
  divided : Bool := false
deriving DecidableEq, Repr

/-- How often being verbose counts. -/
def maxVerbosity : Nat := 255

namespace Progress

/-- The progress with the value of an option. -/
def give (p : Progress) (s : Setting) (value : Text) : Except Refusal Progress :=
  match s with
  | .answer => .ok { p with answers := p.answers ++ [value] }
  | .block =>
    if p.block.isSome then .error .repeatedOption
    else
      match Number.natural? value with
      | some n => .ok { p with block := some n }
      | none => .error .malformedValue

/-- The progress with nothing left unchecked. -/
def settle (p : Progress) : Except Refusal Progress :=
  let settled := { p with pending := .nothing }
  match p.pending with
  | .nothing => .ok p
  | .key path => if path = [] then .error .missingValue else .ok { settled with key := some path }
  | .submissions paths =>
    if [] ∈ paths then .error .missingValue
    else .ok { settled with submissions := p.submissions ++ paths }
  | .setting s value => settled.give s value
  | .awaiting _ => .error .missingValue

/-- The progress after a path. -/
def path (p : Progress) (t : Text) : Except Refusal Progress :=
  match p.pending with
  -- submissions that follow each other are checked together
  | .submissions paths => .ok { p with pending := .submissions (paths ++ [t]) }
  | _ =>
    match p.settle with
    | .error e => .error e
    | .ok p =>
      if p.key.isSome then .ok { p with pending := .submissions [t] }
      else .ok { p with pending := .key t }

/-- The progress after an option without a value; nothing is left unchecked. -/
def perform (p : Progress) (a : Action) : Except Refusal Progress :=
  match a with
  | .toggle t =>
    if t ∈ p.toggles then .error .repeatedOption else .ok { p with toggles := t :: p.toggles }
  | .verbose => .ok { p with verbosity := min maxVerbosity (p.verbosity + 1) }
  | .help => .error .help
  | .version => .error .version
  | .setting s => .ok { p with pending := .awaiting s }

/-- The progress after an option written as a word. -/
def long (p : Progress) (word : Text) (value : Option Text) : Except Refusal Progress :=
  match ofWord? word, value with
  | none, _ => .error .unknownArgument
  | some (.setting s), some value => do (← p.settle).give s value
  | some _, some _ => .error .superfluousValue
  | some a, none => do (← p.settle).perform a

/-- The progress after options written as letters.  What follows the letter of an option that
takes a value is its value, an equals sign before it apart. -/
def short (p : Progress) : (letters : Text) → Except Refusal Progress
  | [] => .ok p
  | c :: rest =>
    match ofLetter? c, rest with
    -- what is pending stays unchecked here, as it does for an unknown word
    | none, _ => .error .unknownArgument
    | some (.setting s), '=' :: value => do (← p.settle).give s value
    | some (.setting s), d :: value => do (← p.settle).give s (d :: value)
    | some a, rest =>
      match p.settle with
      | .error e => .error e
      | .ok p =>
        match p.perform a with
        | .error e => .error e
        | .ok p => p.short rest

/-- The progress after one more argument. -/
def step (p : Progress) (t : Text) : Except Refusal Progress :=
  if p.divided then p.path t
  else
    match Argument.ofText t, p.pending with
    | .divider, _ => .ok { p with divided := true }
    | .long word value, _ => p.long word value
    | .short letters, _ => p.short letters
    | .plain t, .awaiting s => .ok { p with pending := .setting s t }
    | .plain t, _ => p.path t

/-- What was asked for, once nothing is left unchecked. -/
def finish (p : Progress) : Except Refusal Invocation :=
  match p.key with
  | none => .error .missingKey
  | some key => .ok {
      key
      submissions := p.submissions
      answers := p.answers
      block := p.block.getD 0
      list := .list ∈ p.toggles
      json := .json ∈ p.toggles
      sequential := .sequential ∈ p.toggles
      noColour := .noColour ∈ p.toggles
      verbosity := p.verbosity }

end Progress

/-- What some arguments ask for. -/
def read (arguments : List Text) : Except Refusal Invocation := do
  let p ← arguments.foldlM Progress.step {}
  let p ← p.settle
  p.finish

end AnswerKey.CommandLine
