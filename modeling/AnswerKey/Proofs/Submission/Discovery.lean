import AnswerKey.Proofs.Files.Fault
import AnswerKey.Proofs.Submission

/-!
# What directories stand for

A path that leads to a directory stands for the files below it that have the wanted extension, each
of them once and in the order of their paths, and any other path stands for itself.  The parts that
the paths stand for follow each other as the paths do, and one walk that fails fails them all.  It
fails for what no walk goes on from, and for nothing else.
-/

namespace AnswerKey

open Files

variable {w : World} {paths files part : List Text} {path : Text}

namespace Expansion

/-- What a path is to stand for. -/
structure StandsFor (w : World) (path : Text) (part : List Text) : Prop where
  /-- A path that leads to no directory stands for itself, whether or not it leads to a file. -/
  itself : w.isDirectory path = false → part = [path]
  /-- A directory stands for the files below it, through links too, whose last name ends in the
  extension behind something else. -/
  mem_iff : w.isDirectory path = true → ∀ file, file ∈ part ↔
    ∃ ns stem, stem ≠ [] ∧ w.LeadsDown path (ns ++ [stem ++ ".txt".toList]) ∧
      file = Path.joinAll path (ns ++ [stem ++ ".txt".toList]) ∧ w.IsFile file
  ordered : part.Pairwise Path.Before
  once : part.Nodup

theorem isDirectory_eq_false (h : w.entries? path = none) : w.isDirectory path = false := by
  unfold World.isDirectory
  rw [h]
  rfl

/-- The files of a directory are those that its walk finds. -/
theorem files_of_entries? {place : Place} {entries : List (Text × Node)}
    (h : w.entries? path = some (place, entries)) :
    (ofPath w path).files = Walk.files w path place entries := by
  unfold ofPath
  rw [h]
  rfl

/-- Nothing but a walk fails. -/
theorem exists_files_eq_error_iff : (∃ e, (ofPath w path).files = .error e) ↔
    ∃ place entries e, w.entries? path = some (place, entries) ∧
      Walk.files w path place entries = .error e := by
  cases hentries : w.entries? path with
  | none =>
    rw [files_of_not_directory (isDirectory_eq_false hentries)]
    simp
  | some found =>
    obtain ⟨place, entries⟩ := found
    rw [files_of_entries? hentries]
    simp

/-- A path that is no directory stands for itself alone. -/
theorem standsFor_singleton (h : w.isDirectory path = false) : StandsFor w path [path] where
  itself _ := rfl
  mem_iff hdirectory := by
    rw [h] at hdirectory
    cases hdirectory
  ordered := List.pairwise_singleton _ _
  once := List.nodup_singleton _

open Walk in
/-- A walk that comes to its end gives what its directory is to stand for. -/
theorem standsFor_walk (hw : w.root.Named) {place : Place}
    {entries : List (Text × Node)} (hentries : w.entries? path = some (place, entries))
    (h : Walk.files w path place entries = .ok part) : StandsFor w path part := by
  obtain ⟨found, hfound, rfl⟩ := Traversal.map_eq_ok_iff.1 h
  obtain ⟨hlocate, hat⟩ := World.entries?_eq_some_iff.1 hentries
  obtain ⟨hpath, -, -⟩ := World.locate_eq_ok_iff.1 hlocate
  have hsub : entries ⊆ entries := List.Subset.refl entries
  have hmem : ∀ ns, ns ∈ sorted found ↔ Sought w path ns := by
    intro ns
    unfold sorted
    rw [List.mem_mergeSort, mem_collect_iff hw hfound hentries hsub]
    exact and_iff_left_of_imp fun hsought => hsought.head?_mem hentries
  have hnames : (entries.map Prod.fst).Nodup :=
    (Node.proper_dir_iff.1 (w.proper.at? hat)).1
  have hnodup : found.Nodup := nodup_collect hw hfound hentries hsub hnames
  -- paths under one directory are in the order of the names that lead to them
  have hordered : ((sorted found).map (Path.joinAll path)).Pairwise Path.Before := by
    refine List.pairwise_map.2 ((pairwise_sorted hnodup).imp_of_mem ?_)
    intro ns others hns hothers hlt
    have hnames := ((hmem ns).1 hns).leads.isName hw
    have hotherNames := ((hmem others).1 hothers).leads.isName hw
    exact Path.before_joinAll hpath hnames hotherNames hlt
  refine ⟨fun hnot => ?_, fun _ file => ?_, hordered, hordered.imp Path.Before.ne⟩
  · unfold World.isDirectory at hnot
    rw [hentries] at hnot
    cases hnot
  · rw [List.mem_map]
    constructor
    · rintro ⟨ns, hns, rfl⟩
      have hsought := (hmem ns).1 hns
      obtain ⟨init, stem, hstem, rfl⟩ := endsWanted_iff.1 hsought.ends
      exact ⟨init, stem, hstem, hsought.leads, rfl, hsought.isFile⟩
    · rintro ⟨init, stem, hstem, hleads, rfl, hfile⟩
      exact ⟨_, (hmem _).2 ⟨hleads, hfile, endsWanted_iff.2 ⟨init, stem, hstem, rfl⟩⟩, rfl⟩

/-- A path stands for the files that are found for it. -/
theorem standsFor_of_files (hw : w.root.Named) (h : (ofPath w path).files = .ok part) :
    StandsFor w path part := by
  cases hentries : w.entries? path with
  | none =>
    have hnot := isDirectory_eq_false hentries
    rw [files_of_not_directory hnot] at h
    obtain rfl := Except.ok.inj h
    exact standsFor_singleton hnot
  | some found =>
    obtain ⟨place, entries⟩ := found
    rw [files_of_entries? hentries] at h
    exact standsFor_walk hw hentries h

end Expansion

open Expansion

/-- Paths that are given later stand behind those given before. -/
theorem discover_append (w : World) (paths more : List Text) :
    discover w (paths ++ more) = do
      let files ← discover w paths
      let others ← discover w more
      return files ++ others := by
  unfold discover
  rw [List.mapM_append]
  cases paths.mapM fun path => (ofPath w path).files with
  | error e => rfl
  | ok parts =>
    cases more.mapM fun path => (ofPath w path).files with
    | error e => rfl
    | ok others => exact congrArg Except.ok List.flatten_append

/-- The files cannot be told just if the walk of one of the directories fails. -/
theorem exists_discover_eq_error_iff : (∃ e, discover w paths = .error e) ↔
    ∃ path ∈ paths, ∃ place entries e, w.entries? path = some (place, entries) ∧
      Walk.files w path place entries = .error e := by
  unfold discover
  simp only [Traversal.map_eq_error_iff, Traversal.exists_mapM_eq_error_iff,
    exists_files_eq_error_iff]

/-- Paths stand for what each of them is to stand for, in their order, unless the walk through a
directory among them fails, which it does just where something that no walk goes on from is below
that directory. -/
theorem discover_exact (w : World) (hw : w.root.Named) (paths : List Text) :
    (∀ files, discover w paths = .ok files →
      ∃ parts, files = parts.flatten ∧ List.Forall₂ (StandsFor w) paths parts) ∧
    (∀ more, discover w (paths ++ more) = do
      let files ← discover w paths
      let others ← discover w more
      return files ++ others) ∧
    ((∃ e, discover w paths = .error e) ↔
      ∃ path ∈ paths, ∃ place entries e, w.entries? path = some (place, entries) ∧
        Walk.files w path place entries = .error e) ∧
    ∀ path place entries, w.entries? path = some (place, entries) →
      ((∃ e, Walk.files w path place entries = .error e) ↔ Walk.Blocked w path []) := by
  refine ⟨fun files hfiles => ?_, discover_append w paths, exists_discover_eq_error_iff,
    fun path place entries hentries => Walk.files_fails_iff hw hentries⟩
  obtain ⟨parts, hparts, rfl⟩ := discover_eq_ok_iff.1 hfiles
  exact ⟨parts, rfl, hparts.imp fun path part hpart => standsFor_of_files hw hpart⟩

/-- Files of which one is in a directory that is named like a text, and two are not named like
one. -/
def plainEntries : List (Text × Node) := [
  ("d.txt".toList, .dir [("c.txt".toList, .file .empty)]),
  ("a.txt".toList, .file .empty),
  ("a".toList, .dir [("b.txt".toList, .file .empty)]),
  (".txt".toList, .file .empty),
  ("x.TXT".toList, .file .empty)]

/-- A directory with these files and a link to another directory. -/
def linkedRoot : Node :=
  .dir [("t".toList, .dir (("l".toList, .link "../u".toList) :: plainEntries)),
    ("u".toList, .dir [("e.txt".toList, .file .empty)])]

theorem proper_linkedRoot : linkedRoot.Proper := by
  simp [linkedRoot, plainEntries, Node.proper_dir_iff, Node.Proper.file,
    Node.Proper.link]

theorem named_linkedRoot : linkedRoot.Named := by
  simp +decide [linkedRoot, plainEntries, Node.named_dir_iff, Node.Named.file,
    Node.Named.link]

/-- The tree seen from its top. -/
def linkedWorld : World := ⟨linkedRoot, proper_linkedRoot, [], .empty⟩

/-- Components decide the order: the directory `a` comes before the file `a.txt`, and so does what
is in it. -/
theorem discover_exact_sample : linkedWorld.root.Named ∧
    ¬ Walk.Blocked linkedWorld "t".toList [] ∧
    StandsFor linkedWorld "t".toList ["t/a/b.txt".toList, "t/a.txt".toList,
      "t/d.txt/c.txt".toList, "t/l/e.txt".toList] := by
  have hentries : linkedWorld.entries? "t".toList =
      some (["t".toList], ("l".toList, .link "../u".toList) :: plainEntries) := by cbv
  have hlook : Walk.look linkedWorld ⟨["t".toList], "t".toList⟩ [] "l".toList
      (.link "../u".toList) = .directory ["u".toList] [("e.txt".toList, .file .empty)] := by cbv
  have hbelow : Walk.collect linkedWorld ⟨["u".toList], "t/l".toList⟩
      [⟨["t".toList], "t".toList⟩] [("e.txt".toList, .file .empty)] = .ok [["e.txt".toList]] := by
    cbv
  have hplain : Walk.collect linkedWorld ⟨["t".toList], "t".toList⟩ [] plainEntries =
      .ok [["d.txt".toList, "c.txt".toList], ["a.txt".toList], ["a".toList, "b.txt".toList]] := by
    cbv
  have hwalk : Walk.files linkedWorld "t".toList ["t".toList]
      (("l".toList, .link "../u".toList) :: plainEntries) =
        .ok ["t/a/b.txt".toList, "t/a.txt".toList, "t/d.txt/c.txt".toList,
          "t/l/e.txt".toList] := by
    unfold Walk.files
    rw [Walk.collect_cons_of_directory hlook hbelow, hplain]
    cbv
  have hrun : discover linkedWorld ["t".toList] =
      .ok ["t/a/b.txt".toList, "t/a.txt".toList, "t/d.txt/c.txt".toList, "t/l/e.txt".toList] := by
    refine discover_eq_ok_iff.2 ⟨[_], .cons ?_ .nil, List.append_nil _⟩
    rw [files_of_entries? hentries, hwalk]
  have hexact := discover_exact linkedWorld named_linkedRoot ["t".toList]
  have hclear : ¬ Walk.Blocked linkedWorld "t".toList [] := by
    rw [← hexact.2.2.2 _ _ _ hentries, hwalk]
    simp
  refine ⟨named_linkedRoot, hclear, ?_⟩
  obtain ⟨parts, hfiles, hparts⟩ := hexact.1 _ hrun
  obtain ⟨part, rest, hpart, hrest, rfl⟩ := List.forall₂_cons_left_iff.1 hparts
  obtain rfl := List.forall₂_nil_left_iff.1 hrest
  rw [List.flatten_cons, List.flatten_nil, List.append_nil] at hfiles
  rw [hfiles]
  exact hpart

end AnswerKey
