import AnswerKey.Proofs.Files.World
import AnswerKey.Proofs.Submission

/-!
# Reading the answers

The standard input is used up when it is read, so a second reading would find nothing.  A run never
comes to that: whatever is read of it is read at once, and so it does no harm to think of it as if
it stayed what it was (`drawAll_eq`).  The answers are those given, then those in the files, or else
the one on the standard input, and the order in which they fail is settled here, too: first the
walk, then a standard input that is asked for twice, then the files one after the other.
-/

namespace AnswerKey

open Files (World WalkError ReadError)

variable {w : World} {answers paths files : List Text} {path key text : Text} {f : Failure}

/-! ## Reading apart from the standard input -/

/-- Only the standard input is read differently where its contents are. -/
theorem Source.read_input {s : Source} (h : s ≠ .input) (w : World) (input : ByteArray) :
    s.read { w with input := input } = s.read w := by
  cases s with
  | given text => rfl
  | file path => exact World.readFile_input w input path
  | input => exact absurd rfl h

namespace Submission

variable {o : Origin} {origins : List Origin} {keyFromInput : Bool}

theorem Origin.read_input (h : o.source ≠ .input) (w : World) (input : ByteArray) :
    o.read { w with input := input } = o.read w := by
  unfold Origin.read
  rw [Source.read_input h]

/-! ## A standard input that is used up -/

/-- What is left of the standard input, and how often it has been read. -/
structure Supply where
  left : ByteArray
  uses : Nat

/-- What is left when something has been read from a source. -/
def Supply.after (supply : Supply) (s : Source) : Supply :=
  if s = .input then ⟨ByteArray.empty, supply.uses + 1⟩ else supply

/-- Read some answers in order, each from a world with what the ones before it left of its standard
input, until one of them cannot be read. -/
def drawEach (w : World) : List Origin → Supply → Except Failure (List Submission) × Supply
  | [], supply => (.ok [], supply)
  | o :: origins, supply =>
    match o.read { w with input := supply.left } with
    | .error f => (.error f, supply.after o.source)
    | .ok s =>
      let drawn := drawEach w origins (supply.after o.source)
      (drawn.1.map (s :: ·), drawn.2)

/-- Read the key and then all answers, from a standard input that is used up. -/
def drawAll (w : World) (key : Text) (answers paths : List Text) (supply : Supply) :
    Except Failure (Text × List Submission) × Supply :=
  let supply' := supply.after (Source.ofPath key)
  match readKeyText { w with input := supply.left } key with
  | .error f => (.error f, supply')
  | .ok text =>
    match plan w answers paths (Source.ofPath key = .input) with
    | .error f => (.error f, supply')
    | .ok origins =>
      let drawn := drawEach w origins supply'
      (drawn.1.map (text, ·), drawn.2)

/-- Read the key and then all answers, as if the standard input stayed what it is. -/
def readAll (w : World) (key : Text) (answers paths : List Text) :
    Except Failure (Text × List Submission) :=
  match readKeyText w key with
  | .error f => .error f
  | .ok text => (collect w answers paths (Source.ofPath key = .input)).map (text, ·)

/-- A supply that still serves so many readings of the standard input: it has not been read, or none
of them is to come and it has been read once. -/
def Supply.Serves (supply : Supply) (w : World) (uses : Nat) : Prop :=
  supply.uses + uses ≤ 1 ∧ (supply.uses = 0 → supply.left = w.input)

theorem inputUses_cons (o : Origin) (origins : List Origin) :
    inputUses (o :: origins) = inputUses origins + if o.source = .input then 1 else 0 := by
  unfold inputUses
  rw [List.countP_cons]
  simp only [decide_eq_true_eq]

/-- One answer is read as from the whole standard input, and the rest is still served. -/
theorem Supply.Serves.cons {supply : Supply} (h : supply.Serves w (inputUses (o :: origins))) :
    o.read { w with input := supply.left } = o.read w ∧
      (supply.after o.source).Serves w (inputUses origins) := by
  obtain ⟨huses, hleft⟩ := h
  rw [inputUses_cons] at huses
  unfold Supply.after
  by_cases hinput : o.source = .input
  · rw [if_pos hinput] at huses ⊢
    have hzero : supply.uses = 0 := by omega
    rw [hleft hzero]
    exact ⟨rfl, by dsimp only; omega, fun h => absurd h (Nat.succ_ne_zero _)⟩
  · rw [if_neg hinput] at huses ⊢
    exact ⟨Origin.read_input hinput w supply.left, by omega, hleft⟩

/-- Where no more is asked of the standard input than it serves, reading what is left each time is
reading the whole. -/
theorem drawEach_eq {supply : Supply} (h : supply.Serves w (inputUses origins)) :
    ∃ supply', drawEach w origins supply = (origins.mapM (Origin.read w), supply') ∧
      supply'.uses ≤ 1 := by
  induction origins generalizing supply with
  | nil => exact ⟨supply, rfl, h.1⟩
  | cons o origins ih =>
    obtain ⟨hread, hserves⟩ := h.cons
    obtain ⟨supply', hdrawn, huses⟩ := ih hserves
    unfold drawEach
    rw [hread]
    cases ho : o.read w with
    | error f =>
      rw [Traversal.mapM_cons_of_error ho]
      exact ⟨_, rfl, le_trans (Nat.le_add_right _ _) hserves.1⟩
    | ok s =>
      rw [Traversal.mapM_cons_of_ok ho]
      simp only [hdrawn]
      exact ⟨supply', rfl, huses⟩

/-- A plan that is not refused reads the standard input once at most, the key included. -/
theorem inputUses_le_of_plan (h : plan w answers paths keyFromInput = .ok origins) :
    inputUses origins + keyFromInput.toNat ≤ 1 := by
  obtain ⟨files, hfiles, rfl⟩ := exists_discover_of_plan h
  rw [plan_of_discover hfiles] at h
  split at h
  · cases h
  · next hle => exact Nat.le_of_not_lt hle

/-- A run reads the standard input once at most, and so it is all one whether reading uses it up. -/
theorem drawAll_eq (w : World) (key : Text) (answers paths : List Text) :
    ∃ supply, drawAll w key answers paths ⟨w.input, 0⟩ = (readAll w key answers paths, supply) ∧
      supply.uses ≤ 1 := by
  -- reading the key uses the standard input up if the key is read from it
  have hafter : (Supply.after ⟨w.input, 0⟩ (Source.ofPath key)).uses =
      (decide (Source.ofPath key = .input)).toNat := by
    unfold Supply.after
    split <;> simp_all
  have hle : (Supply.after ⟨w.input, 0⟩ (Source.ofPath key)).uses ≤ 1 := by
    rw [hafter]
    exact Bool.toNat_le _
  unfold drawAll readAll
  simp only
  cases hkey : readKeyText w key with
  | error f => exact ⟨_, rfl, hle⟩
  | ok text =>
    cases hplan : plan w answers paths (decide (Source.ofPath key = .input)) with
    | error f =>
      refine ⟨_, ?_, hle⟩
      unfold collect
      rw [hplan]
      rfl
    | ok origins =>
      have huses := inputUses_le_of_plan hplan
      have hserves : (Supply.after ⟨w.input, 0⟩ (Source.ofPath key)).Serves w
          (inputUses origins) := by
        refine ⟨by omega, fun hzero => ?_⟩
        unfold Supply.after at hzero ⊢
        split at hzero
        · cases hzero
        · next hno => rw [if_neg hno]
      obtain ⟨supply, hdrawn, hsupply⟩ := drawEach_eq hserves
      refine ⟨supply, ?_, hsupply⟩
      unfold collect
      rw [hplan]
      simp only [hdrawn]

/-! ## What is asked of the standard input -/

/-- Answers that are named read the standard input once for each dash. -/
theorem inputUses_named (answers files : List Text) :
    inputUses (named answers files) = files.count Source.inputPath := by
  have hgiven : (answers.mapIdx Origin.ofGiven).countP (fun o => o.source = .input) = 0 := by
    rw [List.countP_eq_zero]
    intro o ho
    obtain ⟨i, hi, rfl⟩ := List.mem_mapIdx.1 ho
    intro hinput
    cases of_decide_eq_true hinput
  have hfile : ∀ path, (decide ((Origin.ofPath path).source = .input)) =
      (path == Source.inputPath) := by
    intro path
    rw [Bool.eq_iff_iff, decide_eq_true_eq, beq_iff_eq]
    exact Source.ofPath_eq_input_iff
  unfold inputUses named
  rw [List.countP_append, hgiven, Nat.zero_add, List.countP_map, List.count]
  congr 1
  funext path
  exact hfile path

/-- The standard input would be read more than once: for dashes among the files and the key, or for
the key and the only answer. -/
def Overdraws (keyFromInput : Bool) (answers files : List Text) : Prop :=
  1 < files.count Source.inputPath + keyFromInput.toNat ∨
    (keyFromInput = true ∧ answers = [] ∧ files = [])

/-- To overdraw the standard input is to ask for it twice in all. -/
theorem overdraws_iff :
    Overdraws keyFromInput answers files ↔
      1 < inputUses (needed answers files) + keyFromInput.toNat := by
  unfold Overdraws needed
  by_cases hnone : named answers files = []
  · obtain ⟨rfl, rfl⟩ := named_eq_nil_iff.1 hnone
    have huses : inputUses [Origin.fallback] = 1 := rfl
    rw [if_pos hnone, huses]
    cases keyFromInput <;> simp
  · rw [if_neg hnone, inputUses_named, or_iff_left]
    rintro ⟨-, hnil⟩
    exact hnone (named_eq_nil_iff.2 hnil)

/-- Where the files are known and nothing is asked for twice, the answers are read one by one. -/
theorem collect_of_discover (hfiles : discover w paths = .ok files)
    (hno : ¬ Overdraws keyFromInput answers files) :
    collect w answers paths keyFromInput = (needed answers files).mapM (Origin.read w) := by
  unfold collect
  rw [plan_of_discover hfiles, if_neg (fun h => hno (overdraws_iff.2 h))]

theorem collect_of_overdraws (hfiles : discover w paths = .ok files)
    (h : Overdraws keyFromInput answers files) :
    collect w answers paths keyFromInput = .error .inputTwice := by
  unfold collect
  rw [plan_of_discover hfiles, if_pos (overdraws_iff.1 h)]

theorem collect_of_not_discovered {e : WalkError} (h : discover w paths = .error e) :
    collect w answers paths keyFromInput = .error (.walk e) := by
  unfold collect plan
  rw [h]

/-! ## Reading answer by answer -/

/-- The text at a path, where a dash stands for the standard input. -/
def textAt (w : World) (path : Text) : Except ReadError Text :=
  if path = Source.inputPath then w.readInput else w.readFile path

/-- The failure where the text at a path cannot be read. -/
def failureAt (path : Text) (cause : ReadError) : Failure :=
  if path = Source.inputPath then .unreadableInput cause else .unreadableSubmission path cause

theorem read_ofPath (w : World) (path : Text) :
    Origin.read w (.ofPath path) =
      match textAt w path with
      | .ok text => .ok ⟨path, text⟩
      | .error cause => .error (failureAt path cause) := by
  unfold textAt failureAt Origin.read Origin.ofPath Source.ofPath
  by_cases hpath : path = Source.inputPath
  · simp only [if_pos hpath]
    rfl
  · simp only [if_neg hpath]
    rfl

theorem read_ofPath_eq_ok_iff {s : Submission} :
    Origin.read w (.ofPath path) = .ok s ↔ s.name = path ∧ textAt w path = .ok s.text := by
  rw [read_ofPath]
  obtain ⟨name, text⟩ := s
  cases textAt w path with
  | ok found => simp [eq_comm]
  | error cause => simp

theorem read_ofPath_eq_error_iff :
    Origin.read w (.ofPath path) = .error f ↔
      ∃ cause, textAt w path = .error cause ∧ f = failureAt path cause := by
  rw [read_ofPath]
  cases textAt w path with
  | ok found => simp
  | error cause => simp [eq_comm]

/-- The answers given, by their numbers. -/
def numbered (answers : List Text) : List Submission :=
  answers.mapIdx fun i text => ⟨"answer ".toList ++ Nat.toDigits 10 (i + 1), text⟩

/-- The answers given cannot fail, so only the files decide. -/
theorem mapM_read_named (w : World) (answers files : List Text) :
    (named answers files).mapM (Origin.read w) =
      (files.mapM fun path => Origin.read w (.ofPath path)).map (numbered answers ++ ·) := by
  have hgiven : List.Forall₂ (fun o s => Origin.read w o = .ok s)
      (answers.mapIdx Origin.ofGiven) (numbered answers) := by
    unfold numbered
    rw [List.forall₂_iff_get]
    refine ⟨by simp, fun i h₁ h₂ => ?_⟩
    simp only [List.get_eq_getElem, List.getElem_mapIdx]
    rfl
  unfold named
  rw [Traversal.mapM_append_of_ok hgiven, List.mapM_map]
  rfl

/-- The files in order, each under its path with the text that is there. -/
def AreRead (w : World) (files : List Text) (submissions : List Submission) : Prop :=
  List.Forall₂ (fun path s => s.name = path ∧ textAt w path = .ok s.text) files submissions

/-- The answers of some files and some that were given: those given by their numbers and then the
files, or the text of the standard input where there are none of either. -/
inductive Listed (w : World) : (answers files : List Text) → List Submission → Prop where
  | named {answers files : List Text} {submissions : List Submission} :
      ¬ (answers = [] ∧ files = []) → AreRead w files submissions →
        Listed w answers files (numbered answers ++ submissions)
  | fallback {text : Text} : w.readInput = .ok text →
      Listed w [] [] [⟨"<stdin>".toList, text⟩]

/-- There is an answer in every list that can come about. -/
theorem Listed.ne_nil {submissions : List Submission} (h : Listed w answers files submissions) :
    submissions ≠ [] := by
  cases h with
  | named hsome hread =>
    intro hnil
    obtain ⟨hnumbered, rfl⟩ := List.append_eq_nil_iff.1 hnil
    exact hsome ⟨List.mapIdx_eq_nil_iff.1 hnumbered, List.forall₂_nil_right_iff.1 hread⟩
  | fallback hread => exact List.cons_ne_nil _ _

/-- The paths that are read for the answers, a dash for the standard input where there are neither
files nor answers given. -/
def pathsRead (answers files : List Text) : List Text :=
  if answers = [] ∧ files = [] then [Source.inputPath] else files

/-- The first of some paths that cannot be read, and why. -/
def FailsFirst (w : World) (paths : List Text) (f : Failure) : Prop :=
  ∃ before path after cause, paths = before ++ path :: after ∧
    (∀ p ∈ before, ∃ text, textAt w p = .ok text) ∧ textAt w path = .error cause ∧
      f = failureAt path cause

/-- The files are all read if each one has a text. -/
theorem mapM_read_eq_ok_iff {submissions : List Submission} :
    (files.mapM fun path => Origin.read w (.ofPath path)) = .ok submissions ↔
      AreRead w files submissions := by
  rw [Traversal.mapM_eq_ok_iff, AreRead]
  simp only [read_ofPath_eq_ok_iff]

/-- Reading fails with the first file that has no text. -/
theorem mapM_read_eq_error_iff :
    (files.mapM fun path => Origin.read w (.ofPath path)) = .error f ↔ FailsFirst w files f := by
  have hok : ∀ path, (∃ s, Origin.read w (.ofPath path) = .ok s) ↔
      ∃ text, textAt w path = .ok text := by
    intro path
    simp only [read_ofPath_eq_ok_iff]
    exact ⟨fun ⟨s, _, htext⟩ => ⟨s.text, htext⟩, fun ⟨text, htext⟩ => ⟨⟨path, text⟩, rfl, htext⟩⟩
  rw [Traversal.mapM_eq_error_iff, FailsFirst]
  simp only [hok, read_ofPath_eq_error_iff]
  constructor
  · rintro ⟨before, path, after, hpaths, hbefore, cause, hcause, hf⟩
    exact ⟨before, path, after, cause, hpaths, hbefore, hcause, hf⟩
  · rintro ⟨before, path, after, cause, hpaths, hbefore, hcause, hf⟩
    exact ⟨before, path, after, hpaths, hbefore, cause, hcause, hf⟩

/-- The answer on the standard input is read as a dash would be, but goes by another name. -/
theorem mapM_read_fallback (w : World) :
    [Origin.fallback].mapM (Origin.read w) =
      ([Source.inputPath].mapM fun path => Origin.read w (.ofPath path)).map
        (List.map fun s => ⟨"<stdin>".toList, s.text⟩) := by
  have hfallback : Origin.read w .fallback = match w.readInput with
      | .ok text => .ok ⟨"<stdin>".toList, text⟩
      | .error cause => .error (failureAt Source.inputPath cause) := rfl
  have hdash := read_ofPath w Source.inputPath
  have htext : textAt w Source.inputPath = w.readInput := if_pos rfl
  rw [htext] at hdash
  cases hread : w.readInput with
  | ok text =>
    rw [hread] at hfallback hdash
    rw [Traversal.mapM_cons_of_ok hfallback,
      Traversal.mapM_cons_of_ok (f := fun path => Origin.read w (.ofPath path)) hdash]
    rfl
  | error cause =>
    rw [hread] at hfallback hdash
    rw [Traversal.mapM_cons_of_error hfallback,
      Traversal.mapM_cons_of_error (f := fun path => Origin.read w (.ofPath path)) hdash]
    rfl

/-- What is needed can be read just if it is listed so. -/
theorem mapM_read_needed_eq_ok_iff {submissions : List Submission} :
    (needed answers files).mapM (Origin.read w) = .ok submissions ↔
      Listed w answers files submissions := by
  unfold needed
  split
  · next hnone =>
    -- nothing is named, and the standard input is read under a name of its own
    obtain ⟨rfl, rfl⟩ := named_eq_nil_iff.1 hnone
    have htext : textAt w Source.inputPath = w.readInput := if_pos rfl
    rw [mapM_read_fallback, Traversal.map_eq_ok_iff]
    simp only [mapM_read_eq_ok_iff]
    constructor
    · rintro ⟨read, hread, rfl⟩
      cases hread with
      | cons hs hnil =>
        cases hnil
        exact .fallback (htext ▸ hs.2)
    · intro hlisted
      cases hlisted with
      | named hsome _ => exact absurd ⟨rfl, rfl⟩ hsome
      | @fallback text hread =>
        exact ⟨[⟨Source.inputPath, text⟩], .cons ⟨rfl, htext.trans hread⟩ .nil, rfl⟩
  · next hsome =>
    -- the answers given come first, and then the files
    rw [named_eq_nil_iff] at hsome
    rw [mapM_read_named, Traversal.map_eq_ok_iff]
    simp only [mapM_read_eq_ok_iff]
    constructor
    · rintro ⟨read, hread, rfl⟩
      exact .named hsome hread
    · intro hlisted
      cases hlisted with
      | named _ hread => exact ⟨_, hread, rfl⟩
      | fallback _ => exact absurd ⟨rfl, rfl⟩ hsome

/-- What is needed cannot be read just if a path among those read fails first. -/
theorem mapM_read_needed_eq_error_iff :
    (needed answers files).mapM (Origin.read w) = .error f ↔
      FailsFirst w (pathsRead answers files) f := by
  unfold needed pathsRead
  simp only [← named_eq_nil_iff]
  split
  · rw [mapM_read_fallback, Traversal.map_eq_error_iff, mapM_read_eq_error_iff]
  · rw [mapM_read_named, Traversal.map_eq_error_iff, mapM_read_eq_error_iff]

theorem failureAt_ne_inputTwice (path : Text) (cause : ReadError) :
    failureAt path cause ≠ .inputTwice := by
  unfold failureAt
  split <;> exact Failure.noConfusion

/-- The failure for reading twice is found just where the files are known and overdraw the input. -/
theorem collect_eq_inputTwice_iff :
    collect w answers paths keyFromInput = .error .inputTwice ↔
      ∃ files, discover w paths = .ok files ∧ Overdraws keyFromInput answers files := by
  cases hfiles : discover w paths with
  | error e => simp [collect_of_not_discovered hfiles]
  | ok files =>
    simp only [Except.ok.injEq, exists_eq_left']
    by_cases hover : Overdraws keyFromInput answers files
    · exact iff_of_true (collect_of_overdraws hfiles hover) hover
    · refine iff_of_false ?_ hover
      rw [collect_of_discover hfiles hover, mapM_read_needed_eq_error_iff]
      rintro ⟨before, path, after, cause, -, -, -, hf⟩
      exact failureAt_ne_inputTwice path cause hf.symm

/-- Reading the key and then the answers reads the standard input once at most.  The answers are
those that are listed, of which there is always one, unless the walk fails, or the standard input
is asked for twice, or else for the first path that cannot be read. -/
theorem collect_listed (w : World) (answers paths : List Text) :
    (∀ key, ∃ supply,
      drawAll w key answers paths ⟨w.input, 0⟩ = (readAll w key answers paths, supply) ∧
        supply.uses ≤ 1) ∧
    ∀ keyFromInput,
      (∀ submissions, collect w answers paths keyFromInput = .ok submissions ↔
        ∃ files, discover w paths = .ok files ∧ ¬ Overdraws keyFromInput answers files ∧
          Listed w answers files submissions) ∧
      (∀ submissions, collect w answers paths keyFromInput = .ok submissions →
        submissions ≠ []) ∧
      (collect w answers paths keyFromInput = .error .inputTwice ↔
        ∃ files, discover w paths = .ok files ∧ Overdraws keyFromInput answers files) ∧
      (∀ files, discover w paths = .ok files → ¬ Overdraws keyFromInput answers files →
        ∀ f, collect w answers paths keyFromInput = .error f ↔
          FailsFirst w (pathsRead answers files) f) ∧
      ∀ e, discover w paths = .error e →
        collect w answers paths keyFromInput = .error (.walk e) := by
  have hok : ∀ keyFromInput submissions,
      collect w answers paths keyFromInput = .ok submissions ↔
        ∃ files, discover w paths = .ok files ∧ ¬ Overdraws keyFromInput answers files ∧
          Listed w answers files submissions := by
    intro keyFromInput submissions
    cases hfiles : discover w paths with
    | error e => simp [collect_of_not_discovered hfiles]
    | ok files =>
      simp only [Except.ok.injEq, exists_eq_left']
      -- what is refused is refused before anything is read
      by_cases hover : Overdraws keyFromInput answers files
      · simp [collect_of_overdraws hfiles hover, hover]
      · rw [collect_of_discover hfiles hover, mapM_read_needed_eq_ok_iff]
        exact (and_iff_right hover).symm
  refine ⟨fun key => drawAll_eq w key answers paths, fun keyFromInput => ⟨hok keyFromInput, ?_,
    collect_eq_inputTwice_iff, ?_, fun e he => collect_of_not_discovered he⟩⟩
  · intro submissions hcollect
    obtain ⟨files, -, -, hlisted⟩ := (hok keyFromInput submissions).1 hcollect
    exact hlisted.ne_nil
  · intro files hfiles hover f
    rw [collect_of_discover hfiles hover, mapM_read_needed_eq_error_iff]

/-- A tree with one file, seen from its top, where the standard input has one letter. -/
def plainWorld : World :=
  ⟨.dir [("a".toList, .file "A".toUTF8)],
    .dir (by decide) (List.forall_mem_singleton.2 (.file _)), [], "x".toUTF8⟩

/-- A dash among the files is read in its place; a second one is refused before it is seen that a
file is missing, which is what a reading fails for otherwise. -/
theorem collect_listed_sample :
    collect plainWorld ["b".toList] ["a".toList, "-".toList] false =
        .ok [⟨"answer 1".toList, "b".toList⟩, ⟨"a".toList, "A".toList⟩, ⟨"-".toList, "x".toList⟩] ∧
      collect plainWorld [] ["c".toList, "-".toList, "-".toList] false = .error .inputTwice ∧
      collect plainWorld [] ["a".toList, "c".toList, "-".toList] false =
        .error (.unreadableSubmission "c".toList .noEntry) := by
  have hfirst : discover plainWorld ["a".toList, "-".toList] = .ok ["a".toList, "-".toList] := by
    cbv
  have hdashes : discover plainWorld ["c".toList, "-".toList, "-".toList] =
      .ok ["c".toList, "-".toList, "-".toList] := by cbv
  have hmissing : discover plainWorld ["a".toList, "c".toList, "-".toList] =
      .ok ["a".toList, "c".toList, "-".toList] := by cbv
  have ha : textAt plainWorld "a".toList = .ok "A".toList := by cbv
  have hdash : textAt plainWorld "-".toList = .ok "x".toList := by cbv
  refine ⟨?_, ?_, ?_⟩
  · refine (((collect_listed plainWorld _ _).2 false).1 _).2 ⟨_, hfirst, ?_, ?_⟩
    · unfold Overdraws
      decide
    · have hread : AreRead plainWorld ["a".toList, "-".toList]
          [⟨"a".toList, "A".toList⟩, ⟨"-".toList, "x".toList⟩] :=
        .cons ⟨rfl, ha⟩ (.cons ⟨rfl, hdash⟩ .nil)
      exact .named (by decide) hread
  · exact ((collect_listed plainWorld _ _).2 false).2.2.1.2 ⟨_, hdashes, .inl (by decide)⟩
  · refine (((collect_listed plainWorld _ _).2 false).2.2.2.1 _ hmissing ?_ _).2 ?_
    · unfold Overdraws
      decide
    · refine ⟨["a".toList], "c".toList, ["-".toList], .noEntry, rfl, ?_, by cbv, rfl⟩
      exact List.forall_mem_singleton.2 ⟨_, ha⟩

end Submission
end AnswerKey
