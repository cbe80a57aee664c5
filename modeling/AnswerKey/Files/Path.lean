import AnswerKey.Text.Delimiter

/-!
# Paths

A path is the text that names a place in a file tree: names divided by slashes.
-/

namespace AnswerKey.Files.Path

/-- The name of the directory itself. -/
def here : Text := ['.']

/-- The name of the directory above. -/
def above : Text := ['.', '.']

/-- Whether a path starts at the top. -/
def isAbsolute (path : Text) : Bool :=
  path.head? == some '/'

/-- The names of a path, in order.  A slash at the end asks for a directory. -/
def names (path : Text) : List Text :=
  let names := ((Text.Delimiter.ofText ['/'] (by decide)).split path).filter (· ≠ [])
  if path.getLast? = some '/' then names ++ [here] else names

/-- The path of an entry of a directory. -/
def join (directory name : Text) : Text :=
  if directory.getLast? = some '/' then directory ++ name else directory ++ '/' :: name

/-- The path that leads from a directory along some names. -/
def joinAll (directory : Text) (names : List Text) : Text :=
  names.foldl join directory

/-- How many bytes a path may have. -/
def maxSize : Nat := 4095

/-- Whether a path is short enough to be followed. -/
def fits (path : Text) : Bool :=
  Text.byteSize path ≤ maxSize

/-- What follows the last dot of a name, unless that dot is its first character. -/
def extension? (name : Text) : Option Text :=
  match name.reverse.dropWhile (· ≠ '.') with
  | '.' :: _ :: _ => some (name.reverse.takeWhile (· ≠ '.')).reverse
  | _ => none

end AnswerKey.Files.Path
