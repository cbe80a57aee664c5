import AnswerKey.Files
import AnswerKey.Files.Path

/-!
# What can be read

A world is a file tree, a place in it where paths start, and the bytes of the
standard input.  Paths are followed name by name, through links, to a place.
-/

namespace AnswerKey.Files

/-- Why a path or the standard input could not be read. -/
inductive ReadError where
  | noEntry
  | notDirectory
  | isDirectory
  | nameTooLong
  | linkLoop
  /-- The bytes are not UTF-8. -/
  | invalidText
deriving DecidableEq, Repr

/-- The reason in words. -/
def ReadError.message : ReadError → String
  | noEntry => "No such file or directory (os error 2)"
  | notDirectory => "Not a directory (os error 20)"
  | isDirectory => "Is a directory (os error 21)"
  | nameTooLong => "File name too long (os error 36)"
  | linkLoop => "Too many levels of symbolic links (os error 40)"
  | invalidText => "stream did not contain valid UTF-8"

/-- A file tree seen from one of its directories, and the standard input. -/
structure World where
  root : Node
  proper : root.Proper
  /-- The place of the current directory. -/
  current : Place
  input : ByteArray

/-- How many links a path may lead through. -/
def maxLinks : Nat := 40

/-- How many bytes a name may have. -/
def maxNameSize : Nat := 255

namespace World

variable (w : World)

/-- The place where a path starts, seen from `place`. -/
def startOf (place : Place) (path : Text) : Place :=
  if Path.isAbsolute path then [] else place

/-- Follow names from a place, through at most `links` links. -/
def follow (links : Nat) (place : Place) (names : List Text) : Except ReadError Place :=
  match names with
  | [] => .ok place
  | name :: names =>
    match w.root.at? place with
    | some (.dir entries) =>
      if name = Path.here then follow links place names
      else if name = Path.above then follow links place.dropLast names
      else if Text.byteSize name > maxNameSize then .error .nameTooLong
      else
        match entries.lookup name with
        | none => .error .noEntry
        | some (.link target) =>
          -- the names of the link stand in for its own name
          match links with
          | 0 => .error .linkLoop
          | links + 1 => follow links (startOf place target) (Path.names target ++ names)
        | some _ => follow links (place ++ [name]) names
    | _ => .error .notDirectory
termination_by (links, names.length)

/-- The place that a path leads to. -/
def locate (path : Text) : Except ReadError Place :=
  if path = [] then .error .noEntry
  else if !Path.fits path then .error .nameTooLong
  else w.follow maxLinks (startOf w.current path) (Path.names path)

/-- The entries of the directory that a path leads to, if it leads to one. -/
def entries? (path : Text) : Option (Place × List (Text × Node)) :=
  match w.locate path with
  | .error _ => none
  | .ok place =>
    match w.root.at? place with
    | some (.dir entries) => some (place, entries)
    | _ => none

/-- Whether a path leads to a directory. -/
def isDirectory (path : Text) : Bool :=
  (w.entries? path).isSome

/-- The text that bytes stand for. -/
def decode (bytes : ByteArray) : Except ReadError Text :=
  match String.fromUTF8? bytes with
  | some s => .ok s.toList
  | none => .error .invalidText

/-- The text of the file that a path leads to. -/
def readFile (path : Text) : Except ReadError Text :=
  match w.locate path with
  | .error e => .error e
  | .ok place =>
    match w.root.at? place with
    | some (.file bytes) => decode bytes
    | some (.dir _) => .error .isDirectory
    | _ => .error .noEntry

/-- The text of the standard input. -/
def readInput : Except ReadError Text :=
  decode w.input

end World
end AnswerKey.Files
