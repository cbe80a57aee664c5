import AnswerKey.Proofs.Files.Search

/-!
# What ends a walk early

A walk comes to its end unless it meets a directory whose path is too long, a link that leads to
nothing, or a link to a directory that the walk is in (`collect_fails_iff`).
-/

namespace AnswerKey.Files

variable {w : World} {path name : Text} {ns : List Text} {node : Node} {place : Place}
  {entries all : List (Text × Node)}

theorem Path.joinAll_concat (path : Text) (ns : List Text) (name : Text) :
    joinAll path (ns ++ [name]) = join (joinAll path ns) name := by
  unfold joinAll
  rw [List.foldl_append]
  rfl

namespace Walk

variable {here : Visit} {above : List Visit}

/-- What no walk from a path goes on from: a node that has a name in the directory that `ns` lead
down to. -/
inductive Stops (w : World) (path : Text) (ns : List Text) (name : Text) : Node → Prop where
  /-- A directory whose path is too long. -/
  | long {entries : List (Text × Node)}
      (hlong : Path.fits (Path.joinAll path (ns ++ [name])) = false) :
      Stops w path ns name (.dir entries)
  /-- A link that leads to nothing. -/
  | broken {t : Text} (hdirectory : w.entries? (Path.joinAll path (ns ++ [name])) = none)
      (hfile : ¬ w.IsFile (Path.joinAll path (ns ++ [name]))) : Stops w path ns name (.link t)
  /-- A link to a directory that is on the way to it. -/
  | loop {t : Text} {before : List Text} {found : Place × List (Text × Node)}
      (hbefore : before <+: ns) (hon : w.entries? (Path.joinAll path before) = some found)
      (hagain : w.entries? (Path.joinAll path (ns ++ [name])) = some found) :
      Stops w path ns name (.link t)

/-- Whether something that no walk goes on from is in the directory that `ns` lead down to, or
below it. -/
inductive Blocked (w : World) (path : Text) : List Text → Prop where
  | entry {ns : List Text} {name : Text} {node : Node} {place : Place}
      {entries : List (Text × Node)}
      (hentries : w.entries? (Path.joinAll path ns) = some (place, entries))
      (hmem : (name, node) ∈ entries) (hstops : Stops w path ns name node) : Blocked w path ns
  | inner {ns : List Text} {name : Text} {node : Node} {place : Place}
      {entries : List (Text × Node)}
      (hentries : w.entries? (Path.joinAll path ns) = some (place, entries))
      (hmem : (name, node) ∈ entries) (hblocked : Blocked w path (ns ++ [name])) :
      Blocked w path ns

/-- The directories that a walk is in are those on the way along the names. -/
def Along (w : World) (path : Text) (ns : List Text) (trail : List Visit) : Prop :=
  ∀ place, (∃ v ∈ trail, v.place = place) ↔
    ∃ before entries, before <+: ns ∧ w.entries? (Path.joinAll path before) = some (place, entries)

/-- One name further down, one more directory lies on the way. -/
theorem Along.down (h : Along w path ns (here :: above))
    (hentries : w.entries? (Path.joinAll path (ns ++ [name])) = some (place, entries)) :
    Along w path (ns ++ [name]) (⟨place, Path.join here.path name⟩ :: here :: above) := by
  intro other
  rw [List.exists_mem_cons_iff, h other]
  simp only [List.prefix_concat_iff]
  constructor
  · rintro (rfl | ⟨before, inner, hbefore, hinner⟩)
    · exact ⟨_, entries, .inl rfl, hentries⟩
    · exact ⟨before, inner, .inr hbefore, hinner⟩
  · rintro ⟨before, inner, rfl | hbefore, hinner⟩
    · rw [hentries] at hinner
      cases hinner
      exact .inl rfl
    · exact .inr ⟨before, inner, hbefore, hinner⟩

/-- A walk starts with nothing but its own directory on the way. -/
theorem along_start (hentries : w.entries? path = some (place, entries)) :
    Along w path [] [⟨place, path⟩] := by
  intro other
  simp only [List.prefix_nil]
  constructor
  · rintro ⟨v, hv, rfl⟩
    obtain rfl := List.mem_singleton.1 hv
    exact ⟨[], entries, rfl, hentries⟩
  · rintro ⟨before, inner, rfl, hinner⟩
    rw [show Path.joinAll path [] = path from rfl, hentries] at hinner
    cases hinner
    exact ⟨_, .head _, rfl⟩

/-- Nothing is blocked where no directory is. -/
theorem Blocked.entries?_ne_none (h : Blocked w path ns) :
    w.entries? (Path.joinAll path ns) ≠ none := by
  cases h with
  | entry hentries | inner hentries =>
    rw [hentries]
    exact Option.some_ne_none _

/-- A walk is blocked at an entry or somewhere behind it. -/
theorem blocked_iff (hentries : w.entries? (Path.joinAll path ns) = some (place, entries)) :
    Blocked w path ns ↔
      ∃ e ∈ entries, Stops w path ns e.1 e.2 ∨ Blocked w path (ns ++ [e.1]) := by
  constructor
  · intro h
    cases h with
    | entry hother hmem hstops =>
      rw [hentries] at hother
      cases hother
      exact ⟨_, hmem, .inl hstops⟩
    | inner hother hmem hblocked =>
      rw [hentries] at hother
      cases hother
      exact ⟨_, hmem, .inr hblocked⟩
  · rintro ⟨⟨name, node⟩, hmem, hstops | hblocked⟩
    · exact .entry hentries hmem hstops
    · exact .inner hentries hmem hblocked

/-- What no walk goes on from is a fault to the walk. -/
theorem look_eq_fault_iff (hpath : here.path = Path.joinAll path ns)
    (halong : Along w path ns (here :: above)) :
    (∃ e, look w here above name node = .fault e) ↔ Stops w path ns name node := by
  have hjoin : Path.joinAll path (ns ++ [name]) = Path.join here.path name := by
    rw [Path.joinAll_concat, hpath]
  cases node with
  | file bytes =>
    rw [look]
    refine iff_of_false (by simp) ?_
    rintro ⟨⟩
  | dir inner =>
    rw [look]
    by_cases hfits : Path.fits (Path.join here.path name) = true
    · rw [if_pos hfits]
      refine iff_of_false (by simp) ?_
      rintro ⟨hlong⟩
      rw [hjoin, hfits] at hlong
      cases hlong
    · rw [if_neg hfits]
      refine iff_of_true ⟨_, rfl⟩ (.long ?_)
      rw [hjoin]
      exact Bool.eq_false_iff.2 hfits
  | link t =>
    rcases look_link_cases w here above name t with ⟨hfile, hlook⟩ |
      ⟨place, inner, hentries, hnew, hlook⟩ | ⟨place, inner, e, hentries, hvisited, hlook⟩ |
      ⟨hentries, hfile, e, hlook⟩
    -- a file, which is no directory and not missing
    · rw [hlook]
      refine iff_of_false (by simp) ?_
      rintro (_ | ⟨-, hnot⟩ | ⟨-, -, hagain⟩)
      · rw [hjoin] at hnot
        exact hnot hfile
      · rw [hjoin, hfile.entries?_eq_none] at hagain
        cases hagain
    -- a directory that is not on the way: none on the way stands at its place
    · rw [hlook]
      refine iff_of_false (by simp) ?_
      rintro (_ | ⟨hnone, -⟩ | ⟨hbefore, hon, hagain⟩)
      · rw [hjoin, hentries] at hnone
        cases hnone
      · rw [hjoin, hentries] at hagain
        cases hagain
        obtain ⟨v, hv, hplace⟩ := (halong place).2 ⟨_, inner, hbefore, hon⟩
        exact hnew v hv hplace
    -- a directory on the way, at whose place the walk would go in again
    · obtain ⟨before, outer, hbefore, hon⟩ := (halong place).1 hvisited
      obtain ⟨-, hinner⟩ := World.entries?_eq_some_iff.1 hentries
      obtain ⟨-, houter⟩ := World.entries?_eq_some_iff.1 hon
      cases hinner.symm.trans houter
      refine iff_of_true ⟨e, hlook⟩ (.loop hbefore hon ?_)
      rwa [hjoin]
    -- neither
    · refine iff_of_true ⟨e, hlook⟩ (.broken ?_ ?_) <;> rwa [hjoin]

/-- A walk over some entries of a directory fails if something that no walk goes on from is among
them or below them. -/
theorem collect_fails_iff (hw : w.root.Named) (hpath : here.path = Path.joinAll path ns)
    (halong : Along w path ns (here :: above))
    (hhere : w.entries? here.path = some (here.place, all)) (hsub : entries ⊆ all) :
    (∃ e, collect w here above entries = .error e) ↔
      ∃ e ∈ entries, Stops w path ns e.1 e.2 ∨ Blocked w path (ns ++ [e.1]) := by
  -- on the walk: the trail that it keeps is along the names that lead to where it is
  fun_induction collect w here above entries generalizing ns all with
  | case1 => simp
  | case2 here above name node rest e hlook =>
    have hstops : Stops w path ns name node := (look_eq_fault_iff hpath halong).1 ⟨e, hlook⟩
    exact iff_of_true ⟨e, rfl⟩ ⟨_, .head _, .inl hstops⟩
  | case3 here above name node rest hlook own =>
    rename_i ih
    -- the entry is a file, and nothing is below a file
    obtain ⟨hmem, hrest⟩ := List.cons_subset.1 hsub
    have hgoes : ¬ Stops w path ns name node := by
      rw [← look_eq_fault_iff hpath halong, hlook]
      simp
    have hclear : ¬ Blocked w path (ns ++ [name]) := by
      intro hblocked
      refine hblocked.entries?_ne_none ?_
      rw [Path.joinAll_concat, ← hpath]
      exact World.entries?_eq_none_of_fits (isFile_of_look hw hhere hmem hlook)
    simp only [Traversal.map_eq_error_iff]
    rw [List.exists_mem_cons_iff, or_iff_right (not_or.2 ⟨hgoes, hclear⟩)]
    exact ih hpath halong hhere hrest
  | case4 here above name node rest place inner hlook e hinner ihinner =>
    -- the entry is a directory, and its own walk fails
    obtain ⟨hmem, hrest⟩ := List.cons_subset.1 hsub
    have hjoin : Path.joinAll path (ns ++ [name]) = Path.join here.path name := by
      rw [Path.joinAll_concat, hpath]
    have hentries := entries?_of_look hw hhere hmem hlook
    have hdown := halong.down (hjoin ▸ hentries)
    have hblocked : Blocked w path (ns ++ [name]) :=
      (blocked_iff (hjoin ▸ hentries)).2
        ((ihinner hjoin.symm hdown hentries (List.Subset.refl inner)).1 ⟨e, hinner⟩)
    exact iff_of_true ⟨e, rfl⟩ ⟨_, .head _, .inr hblocked⟩
  | case5 here above name node rest place inner hlook below hbelow ihbelow ih =>
    -- the entry is a directory that the walk comes back from
    obtain ⟨hmem, hrest⟩ := List.cons_subset.1 hsub
    have hjoin : Path.joinAll path (ns ++ [name]) = Path.join here.path name := by
      rw [Path.joinAll_concat, hpath]
    have hentries := entries?_of_look hw hhere hmem hlook
    have hdown := halong.down (hjoin ▸ hentries)
    have hgoes : ¬ Stops w path ns name node := by
      rw [← look_eq_fault_iff hpath halong, hlook]
      simp
    have hclear : ¬ Blocked w path (ns ++ [name]) := by
      rw [blocked_iff (hjoin ▸ hentries),
        ← ihbelow hjoin.symm hdown hentries (List.Subset.refl inner), hbelow]
      simp
    simp only [Traversal.map_eq_error_iff]
    rw [List.exists_mem_cons_iff, or_iff_right (not_or.2 ⟨hgoes, hclear⟩)]
    exact ih hpath halong hhere hrest

/-- A walk through a directory fails if something that no walk goes on from is below it. -/
theorem files_fails_iff (hw : w.root.Named) (hentries : w.entries? path = some (place, entries)) :
    (∃ e, files w path place entries = .error e) ↔ Blocked w path [] := by
  unfold files
  simp only [Traversal.map_eq_error_iff]
  rw [collect_fails_iff hw rfl (along_start hentries) hentries (List.Subset.refl entries)]
  have hroot : w.entries? (Path.joinAll path []) = some (place, entries) := hentries
  exact (blocked_iff hroot).symm

end Walk
end AnswerKey.Files
