import AnswerKey.Proofs.Files.Walk
import AnswerKey.Submission
import Mathlib

/-!
# Where answers come from

The paths given are expanded to files, and what is to be read is settled before anything is read.
Whether the standard input is among it is decided by the files that the paths stand for and not by
the paths: a directory counts as the files in it, even one that goes by the name of a dash, and
directories without files count as nothing given.  So the standard input is not always read when a
dash is given, and may be read when paths are given (`collect_uses_input_iff`).
-/

namespace AnswerKey

open Files (World WalkError)

variable {w : World} {answers paths files : List Text} {path : Text}

theorem Source.ofPath_eq_input_iff : Source.ofPath path = .input ↔ path = inputPath := by
  unfold ofPath
  split <;> simp_all

/-! ## Expanding paths -/

namespace Expansion

/-- A path that leads to a directory with no wanted file in it or below it. -/
def Barren (w : World) (path : Text) : Prop :=
  (ofPath w path).files = .ok []

theorem files_of_not_directory (h : w.isDirectory path = false) :
    (ofPath w path).files = .ok [path] := by
  unfold World.isDirectory at h
  unfold ofPath
  split
  · rfl
  · next hentries => simp [hentries] at h

theorem Barren.isDirectory (h : Barren w path) : w.isDirectory path = true := by
  unfold Barren at h
  by_contra hnot
  rw [files_of_not_directory (Bool.eq_false_iff.2 hnot)] at h
  cases h

/-- No file in a directory goes by the path of the standard input. -/
theorem inputPath_not_mem_of_directory (hdirectory : w.isDirectory path = true)
    (h : (ofPath w path).files = .ok files) : Source.inputPath ∉ files := by
  unfold World.isDirectory at hdirectory
  unfold ofPath at h
  split at h
  · next hentries => simp [hentries] at hdirectory
  · next place entries hentries =>
    obtain ⟨found, hfound, rfl⟩ := Traversal.map_eq_ok_iff.1 h
    intro hmem
    obtain ⟨names, hnames, hpath⟩ := List.mem_map.1 hmem
    have hwanted := Files.Walk.endsWanted_of_mem_collect hfound names (List.mem_mergeSort.1 hnames)
    obtain ⟨name, hlast, hextension⟩ := hwanted
    have hsuffix : Files.Walk.extension <:+ Source.inputPath := by
      rw [← hpath]
      exact (Files.Path.suffix_extension hextension).trans (Files.Path.suffix_joinAll hlast path)
    exact absurd hsuffix.length_le (by decide)

/-- A dash comes of a path just if it is that path and no directory. -/
theorem inputPath_mem_iff (h : (ofPath w path).files = .ok files) :
    Source.inputPath ∈ files ↔
      path = Source.inputPath ∧ w.isDirectory Source.inputPath = false := by
  cases hdirectory : w.isDirectory path with
  | false =>
    rw [files_of_not_directory hdirectory] at h
    cases h
    rw [List.mem_singleton]
    exact ⟨fun he => ⟨he.symm, he ▸ hdirectory⟩, fun he => he.1.symm⟩
  | true =>
    refine iff_of_false (inputPath_not_mem_of_directory hdirectory h) ?_
    rintro ⟨rfl, hnot⟩
    rw [hdirectory] at hnot
    cases hnot

end Expansion

/-- The files are those of the paths, one path after the other. -/
theorem discover_eq_ok_iff : discover w paths = .ok files ↔
    ∃ parts,
      List.Forall₂ (fun path part => (Expansion.ofPath w path).files = .ok part) paths parts ∧
        parts.flatten = files := by
  unfold discover
  rw [Traversal.map_eq_ok_iff]
  simp only [Traversal.mapM_eq_ok_iff]

/-- A dash is among the files just if it is among the paths and is no directory. -/
theorem inputPath_mem_discover_iff (h : discover w paths = .ok files) :
    Source.inputPath ∈ files ↔
      Source.inputPath ∈ paths ∧ w.isDirectory Source.inputPath = false := by
  obtain ⟨parts, hparts, rfl⟩ := discover_eq_ok_iff.1 h
  clear h
  induction hparts with
  | nil => simp
  | cons hpart _ ih =>
    rw [List.flatten_cons, List.mem_append, ih, Expansion.inputPath_mem_iff hpart, List.mem_cons,
      or_and_right, eq_comm]

/-- Nothing is found just if every path is a directory in which nothing is to be found. -/
theorem discover_eq_nil_iff (h : discover w paths = .ok files) :
    files = [] ↔ ∀ path ∈ paths, Expansion.Barren w path := by
  obtain ⟨parts, hparts, rfl⟩ := discover_eq_ok_iff.1 h
  clear h
  induction hparts with
  | nil => simp
  | cons hpart _ ih =>
    rw [List.flatten_cons, List.append_eq_nil_iff, ih, List.forall_mem_cons, Expansion.Barren,
      hpart]
    simp

/-! ## The plan -/

namespace Submission

/-- The standard input is among what is to be read. -/
def UsesInput (origins : List Origin) : Prop :=
  ∃ o ∈ origins, o.source = .input

/-- The answers given and the files, before it is seen whether these are none. -/
def named (answers files : List Text) : List Origin :=
  answers.mapIdx Origin.ofGiven ++ files.map Origin.ofPath

theorem named_eq_nil_iff : named answers files = [] ↔ answers = [] ∧ files = [] := by
  unfold named
  rw [List.append_eq_nil_iff, List.mapIdx_eq_nil_iff, List.map_eq_nil_iff]

/-- Answers that are named use the standard input just if a dash is among the files. -/
theorem usesInput_named_iff : UsesInput (named answers files) ↔ Source.inputPath ∈ files := by
  constructor
  · rintro ⟨o, ho, hinput⟩
    rcases List.mem_append.1 ho with ho | ho
    · obtain ⟨i, hi, rfl⟩ := List.mem_mapIdx.1 ho
      cases hinput
    · obtain ⟨file, hfile, rfl⟩ := List.mem_map.1 ho
      rwa [Source.ofPath_eq_input_iff.1 hinput] at hfile
  · intro hfile
    refine ⟨.ofPath Source.inputPath, List.mem_append_right _ (List.mem_map_of_mem hfile), ?_⟩
    exact Source.ofPath_eq_input_iff.2 rfl

/-- All that is to be read. -/
def needed (answers files : List Text) : List Origin :=
  if named answers files = [] then [Origin.fallback] else named answers files

theorem needed_ne_nil (answers files : List Text) : needed answers files ≠ [] := by
  unfold needed
  split
  · exact List.cons_ne_nil _ _
  · assumption

/-- The standard input is used for a dash, or where there is nothing else to grade. -/
theorem usesInput_needed_iff :
    UsesInput (needed answers files) ↔ Source.inputPath ∈ files ∨ answers = [] ∧ files = [] := by
  unfold needed
  split
  · next hnone =>
    have hfallback : UsesInput [Origin.fallback] := ⟨_, .head _, rfl⟩
    exact iff_of_true hfallback (.inr (named_eq_nil_iff.1 hnone))
  · next hsome =>
    rw [usesInput_named_iff, or_iff_left]
    rwa [named_eq_nil_iff] at hsome

/-- Once the files are known, only a second reading of the standard input can be refused. -/
theorem plan_of_discover (h : discover w paths = .ok files) (keyFromInput : Bool) :
    plan w answers paths keyFromInput =
      if inputUses (needed answers files) + keyFromInput.toNat > 1 then .error .inputTwice
      else .ok (needed answers files) := by
  unfold plan
  rw [h]
  rfl

/-- A plan is made of the files that were found. -/
theorem exists_discover_of_plan {keyFromInput : Bool} {origins : List Origin}
    (h : plan w answers paths keyFromInput = .ok origins) :
    ∃ files, discover w paths = .ok files ∧ origins = needed answers files := by
  cases hfiles : discover w paths with
  | error e =>
    unfold plan at h
    rw [hfiles] at h
    cases h
  | ok files =>
    rw [plan_of_discover hfiles] at h
    split at h
    · cases h
    · exact ⟨files, rfl, (Except.ok.inj h).symm⟩

/-- The answers are collected just if there is a plan and each of its answers can be read. -/
theorem collect_eq_ok_iff {keyFromInput : Bool} {submissions : List Submission} :
    collect w answers paths keyFromInput = .ok submissions ↔
      ∃ origins, plan w answers paths keyFromInput = .ok origins ∧
        List.Forall₂ (fun o s => Origin.read w o = .ok s) origins submissions := by
  unfold collect
  cases plan w answers paths keyFromInput with
  | error e => simp
  | ok origins => simp [Traversal.mapM_eq_ok_iff]

/-- There is always something to grade. -/
theorem ne_nil_of_collect {keyFromInput : Bool} {submissions : List Submission}
    (h : collect w answers paths keyFromInput = .ok submissions) : submissions ≠ [] := by
  obtain ⟨origins, hplan, hread⟩ := collect_eq_ok_iff.1 h
  obtain ⟨files, -, rfl⟩ := exists_discover_of_plan hplan
  rintro rfl
  exact needed_ne_nil answers files (List.forall₂_nil_right_iff.1 hread)

/-- Answers are read one for each origin, and the standard input is among the origins if a dash is
given that is no directory, or if nothing is given but directories without files.  So a dash or
nothing given is the rule exactly as long as a dash that is a directory is given just where
directories without files are all that is given. -/
theorem collect_uses_input_iff (w : World) (answers paths : List Text)
    (submissions : List Submission) (h : collect w answers paths false = .ok submissions) :
    ∃ origins, plan w answers paths false = .ok origins ∧
      List.Forall₂ (fun o s => Origin.read w o = .ok s) origins submissions ∧
      (UsesInput origins ↔
        (Source.inputPath ∈ paths ∧ w.isDirectory Source.inputPath = false) ∨
          (answers = [] ∧ ∀ path ∈ paths, Expansion.Barren w path)) ∧
      ((UsesInput origins ↔ Source.inputPath ∈ paths ∨ (answers = [] ∧ paths = [])) ↔
        ((Source.inputPath ∈ paths ∧ w.isDirectory Source.inputPath = true) ↔
          (answers = [] ∧ paths ≠ [] ∧ ∀ path ∈ paths, Expansion.Barren w path))) := by
  obtain ⟨origins, hplan, hread⟩ := collect_eq_ok_iff.1 h
  obtain ⟨files, hfiles, rfl⟩ := exists_discover_of_plan hplan
  have huses : UsesInput (needed answers files) ↔
      (Source.inputPath ∈ paths ∧ w.isDirectory Source.inputPath = false) ∨
        (answers = [] ∧ ∀ path ∈ paths, Expansion.Barren w path) := by
    rw [usesInput_needed_iff, inputPath_mem_discover_iff hfiles, discover_eq_nil_iff hfiles]
  refine ⟨_, hplan, hread, huses, ?_⟩
  rw [huses]
  by_cases hpaths : paths = []
  · subst hpaths
    simp
  · cases hdirectory : w.isDirectory Source.inputPath with
    | false =>
      -- a dash that is no directory is a file, so not all paths are barren
      have hfile : Source.inputPath ∈ paths → ¬ ∀ path ∈ paths, Expansion.Barren w path := by
        intro hmem hbarren
        rw [(hbarren _ hmem).isDirectory] at hdirectory
        cases hdirectory
      simp only [and_true, Bool.false_eq_true, and_false, hpaths, not_false_eq_true, true_and,
        or_false, ne_eq, false_iff, or_iff_left_iff_imp]
      exact ⟨fun himp hboth => hfile (himp hboth) hboth.2, fun hnot hboth => absurd hboth hnot⟩
    | true =>
      simp only [Bool.true_eq_false, and_false, false_or, hpaths, or_false, and_true, ne_eq,
        not_false_eq_true, true_and]
      exact iff_comm

/-- A tree with a directory that goes by a dash and holds a file, and an empty directory. -/
def sampleRoot : Files.Node :=
  .dir [("-".toList, .dir [("a.txt".toList, .file "A".toUTF8)]), ("d".toList, .dir [])]

theorem proper_sampleRoot : sampleRoot.Proper := by
  refine .dir (by decide) fun e he => ?_
  rcases List.mem_cons.1 he with rfl | he
  · refine .dir (by decide) fun e he => ?_
    obtain rfl := List.mem_singleton.1 he
    exact .file _
  · obtain rfl := List.mem_singleton.1 he
    exact Files.Node.proper_empty

/-- The tree seen from its top, where the standard input has one letter. -/
def sampleWorld : World := ⟨sampleRoot, proper_sampleRoot, [], "x".toUTF8⟩

/-- Directories without files, even several of them, leave the standard input to be read. -/
theorem collect_uses_input_for_empty_directories :
    collect sampleWorld [] ["d".toList, "./d".toList] false =
        .ok [⟨"<stdin>".toList, "x".toList⟩] ∧
      ∃ origins, plan sampleWorld [] ["d".toList, "./d".toList] false = .ok origins ∧
        UsesInput origins := by
  have hcollect : collect sampleWorld [] ["d".toList, "./d".toList] false =
      .ok [⟨"<stdin>".toList, "x".toList⟩] := by cbv
  have hbarren : ∀ path ∈ ["d".toList, "./d".toList], Expansion.Barren sampleWorld path := by
    have hplain : Expansion.Barren sampleWorld "d".toList := by unfold Expansion.Barren; cbv
    have hdotted : Expansion.Barren sampleWorld "./d".toList := by unfold Expansion.Barren; cbv
    simpa using ⟨hplain, hdotted⟩
  obtain ⟨origins, hplan, -, huses, -⟩ := collect_uses_input_iff _ _ _ _ hcollect
  exact ⟨hcollect, origins, hplan, huses.2 (.inr ⟨rfl, hbarren⟩)⟩

/-- An empty directory is given and the standard input is read for it; a dash is given and a file is
read for it. -/
theorem directories_decide_input :
    (collect sampleWorld [] ["d".toList] false = .ok [⟨"<stdin>".toList, "x".toList⟩] ∧
      ∃ origins, plan sampleWorld [] ["d".toList] false = .ok origins ∧ UsesInput origins ∧
        ¬ (Source.inputPath ∈ ["d".toList] ∨ (([] : List Text) = [] ∧ ["d".toList] = []))) ∧
    (collect sampleWorld [] ["-".toList] false = .ok [⟨"-/a.txt".toList, "A".toList⟩] ∧
      ∃ origins, plan sampleWorld [] ["-".toList] false = .ok origins ∧ ¬ UsesInput origins ∧
        (Source.inputPath ∈ ["-".toList] ∨ (([] : List Text) = [] ∧ ["-".toList] = []))) := by
  have hempty : plan sampleWorld [] ["d".toList] false = .ok [Origin.fallback] := by cbv
  have hdash : plan sampleWorld [] ["-".toList] false =
      .ok [⟨"-/a.txt".toList, .file "-/a.txt".toList⟩] := by cbv
  refine ⟨⟨by cbv, _, hempty, ⟨_, .head _, rfl⟩, by decide⟩, ⟨by cbv, _, hdash, ?_, by decide⟩⟩
  rintro ⟨o, ho, hinput⟩
  obtain rfl := List.mem_singleton.1 ho
  cases hinput

end Submission
end AnswerKey
