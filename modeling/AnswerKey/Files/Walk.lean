import AnswerKey.Files.World

/-!
# Walking a directory

A walk visits everything below a directory, through links, and collects the files
whose extension is `txt`.  A link that leads nowhere, or back to a directory above
it, ends the walk, and so does a directory whose path is too long; a file whose path is too long
is passed over.  Every link that is followed leads to a directory that is not
above it, of which there are finitely many, so a walk comes to an end.
-/

namespace AnswerKey.Files

/-- Why a walk came to nothing. -/
inductive WalkError where
  /-- A link that could not be followed, or a directory that could not be read. -/
  | unreachable (path : Text) (cause : ReadError)
  /-- A link to a directory that the walk is in. -/
  | cycle (path ancestor : Text)
deriving DecidableEq, Repr

namespace WalkError

/-- The reason in words. -/
def message : WalkError → String
  | unreachable path cause =>
    "IO error for operation on " ++ String.ofList path ++ ": " ++ cause.message
  | cycle path ancestor =>
    "File system loop found: " ++ String.ofList path ++ " points to an ancestor "
      ++ String.ofList ancestor

/-- What the failure came from, if it came from another one. -/
def cause? : WalkError → Option ReadError
  | unreachable _ cause => some cause
  | cycle _ _ => none

end WalkError

/-- A directory that a walk is in: its place, and the path by which it was reached. -/
structure Visit where
  place : Place
  path : Text
deriving DecidableEq, Repr

namespace Walk

/-- The extension of the files that are collected. -/
def extension : Text := "txt".toList

/-- Whether a file at a path is collected, where `name` is the end of the path. -/
def wanted (path name : Text) : Bool :=
  Path.fits path && Path.extension? name == some extension

/-- The directories of a tree that a walk is not in. -/
def unvisited (root : Node) (trail : List Visit) : List Place :=
  root.directories.filter fun place => trail.all fun v => v.place ≠ place

theorem length_unvisited_cons_le (root : Node) (v : Visit) (trail : List Visit) :
    (unvisited root (v :: trail)).length ≤ (unvisited root trail).length := by
  refine List.Sublist.length_le ?_
  have h : unvisited root (v :: trail) =
      (unvisited root trail).filter fun place => v.place ≠ place := by
    simp [unvisited, List.filter_filter]
  rw [h]
  exact List.filter_sublist

theorem length_unvisited_cons_lt {root : Node} {v : Visit} {trail : List Visit}
    (hdir : v.place ∈ root.directories) (hnew : trail.all fun u => u.place ≠ v.place) :
    (unvisited root (v :: trail)).length < (unvisited root trail).length := by
  have h : unvisited root (v :: trail) =
      (unvisited root trail).filter fun place => v.place ≠ place := by
    simp [unvisited, List.filter_filter]
  rw [h]
  refine List.length_filter_lt_length_iff_exists.2 ⟨v.place, ?_, by simp⟩
  exact List.mem_filter.2 ⟨hdir, hnew⟩

/-- What a walk comes upon. -/
inductive Sight where
  | file
  | directory (place : Place) (entries : List (Text × Node))
  | fault (e : WalkError)

/-- What an entry of a directory is to a walk.  `here` is the directory, and `above` are the
directories that the walk went through to get there, nearest first. -/
def look (w : World) (here : Visit) (above : List Visit) (name : Text) (node : Node) : Sight :=
  let path := Path.join here.path name
  match node with
  | .file _ => .file
  | .dir entries =>
    if Path.fits path then .directory (here.place ++ [name]) entries
    else .fault (.unreachable path .nameTooLong)
  | .link _ =>
    match w.locate path with
    | .error e => .fault (.unreachable path e)
    | .ok place =>
      match w.root.at? place with
      | some (.dir entries) =>
        -- of several visits to one place the nearest is named
        match (here :: above).find? fun v => v.place = place with
        | some v => .fault (.cycle path v.path)
        | none => .directory place entries
      | some (.file _) => .file
      | _ => .fault (.unreachable path .noEntry)

/-- A directory that a walk goes into is smaller than the one it was found in, or new to it. -/
theorem smaller_of_look {w : World} {here : Visit} {above : List Visit} {name path : Text}
    {node : Node} {place : Place} {entries rest : List (Text × Node)}
    (h : look w here above name node = .directory place entries) :
    Prod.Lex (· < ·) (· < ·)
      ((unvisited w.root (⟨place, path⟩ :: here :: above)).length, sizeOf entries)
      ((unvisited w.root (here :: above)).length, sizeOf ((name, node) :: rest)) := by
  cases node with
  | file bytes => simp [look] at h
  | dir inner =>
    simp only [look] at h
    split at h
    · obtain ⟨rfl, rfl⟩ := Sight.directory.inj h
      refine Prod.Lex.right' _ (length_unvisited_cons_le _ _ _) ?_
      simp only [List.cons.sizeOf_spec, Prod.mk.sizeOf_spec, Node.dir.sizeOf_spec]
      omega
    · cases h
  | link target =>
    simp only [look] at h
    split at h
    · cases h
    · split at h
      · next hat =>
        split at h
        · cases h
        · next hnew =>
          obtain ⟨rfl, rfl⟩ := Sight.directory.inj h
          exact Prod.Lex.left _ _
            (length_unvisited_cons_lt (Node.mem_directories hat) (by simpa using hnew))
      · cases h
      · cases h

/-- What was found below a directory, seen from the directory that holds it under a name. -/
def under (name : Text) (found : List (List Text)) : List (List Text) :=
  found.map (name :: ·)

/-- The names that lead to the wanted files among some entries of a directory and below them, in
the order of the walk. -/
def collect (w : World) (here : Visit) (above : List Visit) :
    List (Text × Node) → Except WalkError (List (List Text))
  | [] => .ok []
  | (name, node) :: rest =>
    match _h : look w here above name node with
    | .fault e => .error e
    | .file =>
      let own := if wanted (Path.join here.path name) name then [[name]] else []
      (collect w here above rest).map (own ++ ·)
    | .directory place entries =>
      match collect w ⟨place, Path.join here.path name⟩ (here :: above) entries with
      | .error e => .error e
      | .ok found => (collect w here above rest).map (under name found ++ ·)
termination_by entries => ((unvisited w.root (here :: above)).length, sizeOf entries)
decreasing_by
  · exact Prod.Lex.right' _ (Nat.le_refl _) (by simp only [List.cons.sizeOf_spec]; omega)
  · exact smaller_of_look ‹_›
  · exact Prod.Lex.right' _ (Nat.le_refl _) (by simp only [List.cons.sizeOf_spec]; omega)

/-- Whether some names come before others, name by name. -/
def pathBefore (names others : List Text) : Bool :=
  names.lex others Text.isBefore

/-- The names in the order of their paths. -/
def sorted (found : List (List Text)) : List (List Text) :=
  found.mergeSort fun a b => !pathBefore b a

/-- The paths of the wanted files below a directory, in order. -/
def files (w : World) (path : Text) (place : Place) (entries : List (Text × Node)) :
    Except WalkError (List Text) :=
  (collect w ⟨place, path⟩ [] entries).map fun found => (sorted found).map (Path.joinAll path)

end Walk
end AnswerKey.Files
