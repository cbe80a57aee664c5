import AnswerKey.Log.Line
import AnswerKey.Session

/-!
# The program

The outer layer reads the arguments, the part of the file tree that they name and
the standard input, runs a session on them, and writes what it leaves behind.
-/

namespace AnswerKey.Main

open Files (Node Place)

/-- A file tree in which no directory has two entries of one name. -/
abbrev Tree := { root : Node // root.Proper }

/-- A tree with nothing in it. -/
def Tree.empty : Tree := ⟨Node.empty, Node.proper_empty⟩

/-- The tree with a proper node at a place. -/
def Tree.put (t : Tree) (place : Place) (node : Tree) : Tree :=
  ⟨Node.insert node.val t.val place, .insert node.property t.property place⟩

/-- The path of a place from the top. -/
def pathOf (place : Place) : String :=
  "/" ++ "/".intercalate (place.map String.ofList)

/-- The place where a path ends that has no links in it. -/
def placeOf (path : String) : Place :=
  (Files.Path.names path.toList).filter (· ≠ Files.Path.here)

/-- What there is at a place, links not followed. -/
def kindOf (place : Place) : IO (Option IO.FS.FileType) := do
  try
    let found ← ((← IO.currentDir) / pathOf place).symlinkMetadata
    return some found.type
  catch _ => return none

/-- The bytes of the file at a place. -/
def bytesOf (place : Place) : IO ByteArray := do
  try IO.FS.readBinFile (pathOf place) catch _ => return .empty

/-- The place that a link leads to, if it leads anywhere. -/
def targetOf (place : Place) : IO (Option Place) := do
  try return some (placeOf (← IO.FS.realPath (pathOf place)).toString) catch _ => return none

/-- A link to a place, or one that leads nowhere. -/
def linkTo (target : Option Place) : Tree :=
  match target with
  | some place => ⟨.link (pathOf place).toList, .link _⟩
  | none => ⟨.link "/\x00".toList, .link _⟩

/-- The names of the entries of a directory. -/
def namesIn (place : Place) : IO (List Text) := do
  try
    let entries ← ((← IO.currentDir) / pathOf place).readDir
    return (entries.map fun e => e.fileName.toList).toList
  catch _ => return []

/-- The tree with everything at a place and below it in it; links are followed.  `seen` has the
directories that are in the tree already. -/
partial def copyAll (seen : List Place) (t : Tree) (place : Place) : IO (List Place × Tree) := do
  match ← kindOf place with
  | none => return (seen, t)
  | some .dir =>
    if place ∈ seen then return (seen, t)
    let mut seen := place :: seen
    let mut t := if (t.val.at? place).isSome then t else t.put place .empty
    for name in ← namesIn place do
      (seen, t) ← copyAll seen t (place ++ [name])
    return (seen, t)
  | some .symlink =>
    let target ← targetOf place
    let t := t.put place (linkTo target)
    match target with
    | some target => copyAll seen t target
    | none => return (seen, t)
  | some _ =>
    let bytes ← bytesOf place
    return (seen, t.put place ⟨.file bytes, .file _⟩)

/-- The tree with everything in it that names lead through and to, from a place on. -/
partial def copyPath (seen : List Place) (t : Tree) (place : Place) :
    List Text → IO (List Place × Tree)
  | [] => copyAll seen t place
  | name :: names => do
    if name = Files.Path.here then copyPath seen t place names
    else if name = Files.Path.above then copyPath seen t place.dropLast names
    else
      let place := place ++ [name]
      match ← kindOf place with
      | some .dir =>
        let t := if (t.val.at? place).isSome then t else t.put place .empty
        copyPath seen t place names
      | some .symlink =>
        let target ← targetOf place
        let t := t.put place (linkTo target)
        match target with
        | some target => copyPath seen t target names
        | none => return (seen, t)
      | some _ => copyAll seen t place
      | none => return (seen, t)

/-- The bytes of the standard input, chunk by chunk. -/
partial def readInput (input : IO.FS.Stream) (read : ByteArray) : IO ByteArray := do
  let chunk ← input.read 65536
  if chunk.isEmpty then return read else readInput input (read ++ chunk)

/-- The world that a run finds. -/
def worldOf (i : CommandLine.Invocation) : IO Files.World := do
  let current := placeOf (← IO.FS.realPath (← IO.currentDir)).toString
  let mut seen := []
  let mut t := Tree.empty.put current .empty
  for path in i.key :: (if i.list then [] else i.submissions) do
    let start := if Files.Path.isAbsolute path then [] else current
    (seen, t) ← copyPath seen t start (Files.Path.names path)
  let world : Files.World := ⟨t.val, t.property, current, .empty⟩
  if Session.readsInput world i then
    return { world with input := ← readInput (← IO.getStdin) .empty }
  else return world

/-- The name of the variable of the environment that holds the filter of the log. -/
def filterVariable : String :=
  String.ofList (CommandLine.program.toList.map Char.toUpper) ++ "_LOG"

/-- Write what a run left behind. -/
def write (outcome : Session.Outcome) (filter : Log.Filter) (json : Bool) : IO UInt32 := do
  for event in outcome.events do
    if filter.shows event then
      IO.eprint (if json then event.json else event.line)
  IO.print outcome.stdout
  IO.eprint outcome.stderr
  return outcome.exit.toUInt32

/-- Run the program on some arguments. -/
def run (arguments : List String) : IO UInt32 := do
  match CommandLine.read (arguments.map String.toList) with
  | .error refusal => write (Session.refused refusal) [] false
  | .ok i =>
    let filter ← IO.getEnv filterVariable
    let format ← IO.getEnv (filterVariable ++ "_FORMAT")
    let terminal ← (← IO.getStdout).isTty
    write (Session.run (← worldOf i) i terminal)
      (.ofRun (filter.map String.toList) i.verbosity) (format == some "json")

end AnswerKey.Main

def main (arguments : List String) : IO UInt32 :=
  AnswerKey.Main.run arguments
