import AnswerKey.Proofs.Files.Entry
import AnswerKey.Proofs.Files.Walk
import Mathlib.Data.Char
import Mathlib.Data.List.Nodup

/-!
# What a walk finds, exactly

A walk that comes to its end has found the names of all wanted files below its directory, and
nothing else (`mem_collect_iff`), and none of them twice (`nodup_collect`).  Sorted, they are in the
order of their paths.
-/

namespace AnswerKey.Files.Walk

variable {w : World} {here : Visit} {above : List Visit} {entries all : List (Text × Node)}
  {path name : Text} {node : Node} {place : Place} {ns : List Text} {found : List (List Text)}

/-- Names that a walk from a path is to find: they lead down to a file, and the last one has the
wanted extension. -/
structure Sought (w : World) (path : Text) (ns : List Text) : Prop where
  leads : w.LeadsDown path ns
  isFile : w.IsFile (Path.joinAll path ns)
  ends : EndsWanted ns

theorem EndsWanted.ne_nil (h : EndsWanted ns) : ns ≠ [] := by
  rintro rfl
  obtain ⟨name, hlast, -⟩ := h
  cases hlast

/-- Only the last name decides. -/
theorem endsWanted_cons_iff (hne : ns ≠ []) : EndsWanted (name :: ns) ↔ EndsWanted ns := by
  unfold EndsWanted
  rw [List.getLast?_cons_of_ne_nil hne]

theorem endsWanted_singleton_iff :
    EndsWanted [name] ↔ Path.extension? name = some extension := by
  unfold EndsWanted
  simp

/-- The last name has the extension, and something before it. -/
theorem endsWanted_iff : EndsWanted ns ↔
    ∃ init stem, stem ≠ [] ∧ ns = init ++ [stem ++ ".txt".toList] := by
  have hextension : ∀ name, Path.extension? name = some extension ↔
      ∃ stem, stem ≠ [] ∧ name = stem ++ ".txt".toList := by
    intro name
    rw [Path.extension?_eq_some_iff]
    exact and_iff_right (by decide)
  constructor
  · rintro ⟨name, hlast, hname⟩
    obtain ⟨init, rfl⟩ := List.getLast?_eq_some_iff.1 hlast
    obtain ⟨stem, hstem, rfl⟩ := (hextension name).1 hname
    exact ⟨init, stem, hstem, rfl⟩
  · rintro ⟨init, stem, hstem, rfl⟩
    exact ⟨_, List.getLast?_concat, (hextension _).2 ⟨stem, hstem, rfl⟩⟩

theorem wanted_iff : wanted path name = true ↔
    Path.fits path = true ∧ Path.extension? name = some extension := by
  unfold wanted
  rw [Bool.and_eq_true, beq_iff_eq]

/-! ## What an entry is to a walk -/

/-- A link is what it leads to: a file, a directory that the walk goes into or is in already, or
nothing. -/
theorem look_link_cases (w : World) (here : Visit) (above : List Visit) (name t : Text) :
    (w.IsFile (Path.join here.path name) ∧ look w here above name (.link t) = .file) ∨
    (∃ place entries, w.entries? (Path.join here.path name) = some (place, entries) ∧
      (∀ v ∈ here :: above, v.place ≠ place) ∧
      look w here above name (.link t) = .directory place entries) ∨
    (∃ place entries e, w.entries? (Path.join here.path name) = some (place, entries) ∧
      (∃ v ∈ here :: above, v.place = place) ∧ look w here above name (.link t) = .fault e) ∨
    (w.entries? (Path.join here.path name) = none ∧ ¬ w.IsFile (Path.join here.path name) ∧
      ∃ e, look w here above name (.link t) = .fault e) := by
  cases hentries : w.entries? (Path.join here.path name) with
  | some found =>
    obtain ⟨place, entries⟩ := found
    obtain ⟨hlocate, hat⟩ := World.entries?_eq_some_iff.1 hentries
    rw [look, hlocate]
    simp only [hat]
    -- a directory is compared with those that the walk is in
    cases hfind : (here :: above).find? fun v => v.place = place with
    | none =>
      refine .inr (.inl ⟨place, entries, rfl, ?_, rfl⟩)
      simpa [List.find?_eq_none] using hfind
    | some v =>
      refine .inr (.inr (.inl ⟨place, entries, _, rfl, ⟨v, ?_, ?_⟩, rfl⟩))
      · exact List.mem_of_find?_eq_some hfind
      · simpa using List.find?_some hfind
  | none =>
    -- where no directory is there is a file, or the link leads nowhere
    by_cases hfile : w.IsFile (Path.join here.path name)
    · obtain ⟨place, bytes, hlocate, hat⟩ := hfile
      refine .inl ⟨⟨place, bytes, hlocate, hat⟩, ?_⟩
      rw [look, hlocate]
      simp only [hat]
    · refine .inr (.inr (.inr ⟨rfl, hfile, ?_⟩))
      rw [look]
      cases hlocate : w.locate (Path.join here.path name) with
      | error e => exact ⟨_, rfl⟩
      | ok place =>
        cases hat : w.root.at? place with
        | none => exact ⟨.unreachable (Path.join here.path name) .noEntry, by simp only [hat]⟩
        | some node =>
          cases node with
          | file bytes => exact absurd ⟨place, bytes, hlocate, hat⟩ hfile
          | link t => exact ⟨.unreachable (Path.join here.path name) .noEntry, by simp only [hat]⟩
          | dir inner =>
            rw [World.entries?_eq_some_iff.2 ⟨hlocate, hat⟩] at hentries
            cases hentries

section Look

variable (hw : w.root.Named) (hhere : w.entries? here.path = some (here.place, all))
  (hmem : (name, node) ∈ all)

include hw hhere hmem

/-- An entry that is a file to the walk is at its path, if that is short enough. -/
theorem isFile_of_look (h : look w here above name node = .file)
    (hfits : Path.fits (Path.join here.path name) = true) :
    w.IsFile (Path.join here.path name) := by
  obtain ⟨-, hat⟩ := World.entries?_eq_some_iff.1 hhere
  cases node with
  | file bytes =>
    have hname : IsName name := hw.isName hat _ hmem
    have hlocate := World.locate_join hhere hname hmem (by simp) hfits
    exact ⟨_, bytes, hlocate, Node.at?_entry w.proper hat hmem⟩
  | dir inner =>
    rw [look, if_pos hfits] at h
    cases h
  | link t =>
    rcases look_link_cases w here above name t with ⟨hfile, -⟩ | ⟨_, _, -, -, hlook⟩ |
      ⟨_, _, _, -, -, hlook⟩ | ⟨-, -, _, hlook⟩
    · exact hfile
    all_goals cases hlook.symm.trans h

/-- An entry that is a directory to the walk is the one at its path. -/
theorem entries?_of_look (h : look w here above name node = .directory place entries) :
    w.entries? (Path.join here.path name) = some (place, entries) := by
  obtain ⟨-, hat⟩ := World.entries?_eq_some_iff.1 hhere
  cases node with
  | file bytes =>
    rw [look] at h
    cases h
  | dir inner =>
    rw [look] at h
    split at h
    · next hfits =>
      obtain ⟨rfl, rfl⟩ := Sight.directory.inj h
      have hname : IsName name := hw.isName hat _ hmem
      have hlocate := World.locate_join hhere hname hmem (by simp) hfits
      exact World.entries?_eq_some_iff.2 ⟨hlocate, Node.at?_entry w.proper hat hmem⟩
    · cases h
  | link t =>
    rcases look_link_cases w here above name t with ⟨-, hlook⟩ | ⟨_, _, hentries, -, hlook⟩ |
      ⟨_, _, _, -, -, hlook⟩ | ⟨-, -, _, hlook⟩
    · cases hlook.symm.trans h
    · obtain ⟨rfl, rfl⟩ := Sight.directory.inj (hlook.symm.trans h)
      exact hentries
    all_goals cases hlook.symm.trans h

/-- A file is sought by its own name only. -/
theorem sought_of_file (h : look w here above name node = .file) :
    Sought w here.path (name :: ns) ↔
      ns = [] ∧ wanted (Path.join here.path name) name = true := by
  have hfile := isFile_of_look hw hhere hmem h
  have hname : name ∈ all.map Prod.fst := List.mem_map_of_mem hmem
  constructor
  · intro hsought
    obtain ⟨-, hbelow⟩ := hsought.leads
    obtain rfl : ns = [] := hbelow.eq_nil (World.entries?_eq_none_of_fits hfile)
    exact ⟨rfl, wanted_iff.2 ⟨hsought.isFile.fits, endsWanted_singleton_iff.1 hsought.ends⟩⟩
  · rintro ⟨rfl, hwanted⟩
    obtain ⟨hfits, hextension⟩ := wanted_iff.1 hwanted
    have hleads : w.LeadsDown here.path [name] :=
      (World.leadsDown_cons_iff hhere hname).2 trivial
    exact ⟨hleads, hfile hfits, endsWanted_singleton_iff.2 hextension⟩

theorem sought_of_directory (h : look w here above name node = .directory place entries) :
    Sought w here.path (name :: ns) ↔ Sought w (Path.join here.path name) ns := by
  have hinner := entries?_of_look hw hhere hmem h
  have hleads : w.LeadsDown here.path (name :: ns) ↔
      w.LeadsDown (Path.join here.path name) ns :=
    World.leadsDown_cons_iff hhere (List.mem_map_of_mem hmem)
  constructor
  · intro hsought
    have hne : ns ≠ [] := by
      rintro rfl
      have hnone := hsought.isFile.entries?_eq_none
      rw [show Path.joinAll here.path [name] = Path.join here.path name from rfl, hinner] at hnone
      cases hnone
    exact ⟨hleads.1 hsought.leads, hsought.isFile, (endsWanted_cons_iff hne).1 hsought.ends⟩
  · intro hsought
    exact ⟨hleads.2 hsought.leads, hsought.isFile, hsought.ends.cons name⟩

/-- What is taken up for a file is what is sought there. -/
theorem mem_own_iff (h : look w here above name node = .file) :
    ns ∈ (if wanted (Path.join here.path name) name then [[name]] else []) ↔
      Sought w here.path ns ∧ ns.head? = some name := by
  constructor
  · intro hns
    split at hns
    · next hwanted =>
      obtain rfl := List.mem_singleton.1 hns
      exact ⟨(sought_of_file hw hhere hmem h).2 ⟨rfl, hwanted⟩, rfl⟩
    · cases hns
  · rintro ⟨hsought, hhead⟩
    obtain ⟨below, rfl⟩ := List.head?_eq_some_iff.1 hhead
    obtain ⟨rfl, hwanted⟩ := (sought_of_file hw hhere hmem h).1 hsought
    rw [if_pos hwanted]
    exact List.mem_singleton_self _

/-- What is taken up for a directory is what is sought there, if what has been found below it is
what is sought below it. -/
theorem mem_under_iff (h : look w here above name node = .directory place entries)
    (hbelow : ∀ ns, ns ∈ found ↔ Sought w (Path.join here.path name) ns) :
    ns ∈ under name found ↔ Sought w here.path ns ∧ ns.head? = some name := by
  unfold under
  rw [List.mem_map]
  constructor
  · rintro ⟨below, hfound, rfl⟩
    exact ⟨(sought_of_directory hw hhere hmem h).2 ((hbelow below).1 hfound), rfl⟩
  · rintro ⟨hsought, hhead⟩
    obtain ⟨below, rfl⟩ := List.head?_eq_some_iff.1 hhead
    exact ⟨below, (hbelow below).2 ((sought_of_directory hw hhere hmem h).1 hsought), rfl⟩

end Look

/-! ## The whole walk -/

/-- What is below a directory, and then what is found for the entries behind it. -/
theorem collect_cons_of_directory {inner rest : List (Text × Node)}
    (hlook : look w here above name node = .directory place inner)
    (hinner : collect w ⟨place, Path.join here.path name⟩ (here :: above) inner = .ok found) :
    collect w here above ((name, node) :: rest) =
      (collect w here above rest).map (under name found ++ ·) := by
  rw [collect]
  split
  · next hother => cases hlook.symm.trans hother
  · next hother => cases hlook.symm.trans hother
  · next hother =>
    obtain ⟨rfl, rfl⟩ := Sight.directory.inj (hlook.symm.trans hother)
    rw [hinner]

/-- Among what is sought, the first name says which entry it is below. -/
theorem Sought.head?_mem (h : Sought w path ns) (hentries : w.entries? path = some (place, all)) :
    ∃ name ∈ all.map Prod.fst, ns.head? = some name := by
  obtain ⟨name, ns, rfl⟩ := List.exists_cons_of_ne_nil h.ends.ne_nil
  exact ⟨name, h.leads.mem_of_cons hentries, rfl⟩

/-- What has been found among some entries of a directory is what is sought below these. -/
theorem mem_collect_iff (hw : w.root.Named) (h : collect w here above entries = .ok found)
    (hhere : w.entries? here.path = some (here.place, all)) (hsub : entries ⊆ all) :
    ns ∈ found ↔
      Sought w here.path ns ∧ ∃ name ∈ entries.map Prod.fst, ns.head? = some name := by
  -- on the walk, where `entries` are what is left of `all`: what is found begins with the name of
  -- the entry that it was found for
  fun_induction collect w here above entries generalizing found all ns with
  | case1 =>
    cases h
    simp
  | case2 => cases h
  | case3 here above name node rest hlook own =>
    rename_i ih
    obtain ⟨others, hothers, rfl⟩ := Traversal.map_eq_ok_iff.1 h
    obtain ⟨hmem, hrest⟩ := List.cons_subset.1 hsub
    have hown : ns ∈ own ↔ Sought w here.path ns ∧ ns.head? = some name :=
      mem_own_iff hw hhere hmem hlook
    have hlater : ns ∈ others ↔
        Sought w here.path ns ∧ ∃ name ∈ rest.map Prod.fst, ns.head? = some name :=
      ih hothers hhere hrest
    rw [List.mem_append, hown, hlater, List.map_cons, List.exists_mem_cons_iff, and_or_left]
  | case4 => cases h
  | case5 here above name node rest place inner hlook below hbelow ihbelow ih =>
    obtain ⟨others, hothers, rfl⟩ := Traversal.map_eq_ok_iff.1 h
    obtain ⟨hmem, hrest⟩ := List.cons_subset.1 hsub
    have hinner := entries?_of_look hw hhere hmem hlook
    have hsought : ∀ ns, ns ∈ below ↔ Sought w (Path.join here.path name) ns := by
      intro ns
      rw [ihbelow hbelow hinner (List.Subset.refl inner)]
      exact and_iff_left_of_imp fun hns => hns.head?_mem hinner
    have hown : ns ∈ under name below ↔ Sought w here.path ns ∧ ns.head? = some name :=
      mem_under_iff hw hhere hmem hlook hsought
    have hlater : ns ∈ others ↔
        Sought w here.path ns ∧ ∃ name ∈ rest.map Prod.fst, ns.head? = some name :=
      ih hothers hhere hrest
    rw [List.mem_append, hown, hlater, List.map_cons, List.exists_mem_cons_iff, and_or_left]

/-- What is found for an entry is apart from what is found for others of other names. -/
theorem nodup_append_of_head? {own others : List (List Text)} (hown : own.Nodup)
    (hothers : others.Nodup) (hnames : name ∉ entries.map Prod.fst)
    (hownHead : ∀ ns ∈ own, ns.head? = some name)
    (hotherHead : ∀ ns ∈ others, ∃ other ∈ entries.map Prod.fst, ns.head? = some other) :
    (own ++ others).Nodup := by
  refine List.nodup_append.2 ⟨hown, hothers, ?_⟩
  rintro ns hns _ hns' rfl
  obtain ⟨other, hother, hhead⟩ := hotherHead ns hns'
  rw [hownHead ns hns] at hhead
  obtain rfl := Option.some.inj hhead
  exact hnames hother

/-- Nothing is found twice. -/
theorem nodup_collect (hw : w.root.Named) (h : collect w here above entries = .ok found)
    (hhere : w.entries? here.path = some (here.place, all)) (hsub : entries ⊆ all)
    (hnodup : (entries.map Prod.fst).Nodup) : found.Nodup := by
  -- no two entries have one name, so what is found for one is not found for another
  fun_induction collect w here above entries generalizing found all with
  | case1 =>
    cases h
    exact List.nodup_nil
  | case2 => cases h
  | case3 here above name node rest hlook own =>
    rename_i ih
    obtain ⟨others, hothers, rfl⟩ := Traversal.map_eq_ok_iff.1 h
    obtain ⟨hmem, hrest⟩ := List.cons_subset.1 hsub
    obtain ⟨hname, hlater⟩ := List.nodup_cons.1 hnodup
    have hown : own.Nodup := by
      show (if _ then _ else _ : List (List Text)).Nodup
      split
      · exact List.nodup_singleton _
      · exact List.nodup_nil
    refine nodup_append_of_head? hown (ih hothers hhere hrest hlater) hname ?_ ?_
    · exact fun ns hns => ((mem_own_iff hw hhere hmem hlook).1 hns).2
    · exact fun ns hns => ((mem_collect_iff hw hothers hhere hrest).1 hns).2
  | case4 => cases h
  | case5 here above name node rest place inner hlook below hbelow ihbelow ih =>
    obtain ⟨others, hothers, rfl⟩ := Traversal.map_eq_ok_iff.1 h
    obtain ⟨hmem, hrest⟩ := List.cons_subset.1 hsub
    obtain ⟨hname, hlater⟩ := List.nodup_cons.1 hnodup
    have hinner := entries?_of_look hw hhere hmem hlook
    obtain ⟨-, hat⟩ := World.entries?_eq_some_iff.1 hinner
    have hinnerNames : (inner.map Prod.fst).Nodup :=
      (Node.proper_dir_iff.1 (w.proper.at? hat)).1
    have hbelowNodup : below.Nodup :=
      ihbelow hbelow hinner (List.Subset.refl inner) hinnerNames
    have hown : (under name below).Nodup := hbelowNodup.map (List.cons_injective)
    refine nodup_append_of_head? hown (ih hothers hhere hrest hlater) hname ?_ ?_
    · intro ns hns
      obtain ⟨below, -, rfl⟩ := List.mem_map.1 hns
      rfl
    · exact fun ns hns => ((mem_collect_iff hw hothers hhere hrest).1 hns).2

/-! ## Order -/

theorem pathBefore_iff {others : List Text} : pathBefore ns others = true ↔ ns < others := by
  unfold pathBefore
  rw [List.lex_eq_true_iff_lex]
  simp only [Text.isBefore_iff]
  rfl

/-- What has been sorted is in order, and strictly so if nothing has been found twice. -/
theorem pairwise_sorted (h : found.Nodup) : (sorted found).Pairwise (· < ·) := by
  have horder : ∀ a b : List Text, (!pathBefore b a) = true ↔ a ≤ b := by
    intro a b
    rw [Bool.not_eq_true', Bool.eq_false_iff, ne_eq, pathBefore_iff, not_lt]
  have htrans : ∀ a b c : List Text, (!pathBefore b a) = true → (!pathBefore c b) = true →
      (!pathBefore c a) = true := by
    intro a b c hab hbc
    rw [horder] at *
    exact hab.trans hbc
  have htotal : ∀ a b : List Text, (!pathBefore b a || !pathBefore a b) = true := by
    intro a b
    rw [Bool.or_eq_true, horder, horder]
    exact le_total a b
  have hle : (sorted found).Pairwise (· ≤ ·) :=
    (List.pairwise_mergeSort htrans htotal found).imp fun hab => (horder _ _).1 hab
  have hne : (sorted found).Pairwise (· ≠ ·) := (List.mergeSort_perm found _).nodup_iff.2 h
  exact hle.imp₂ (fun a b hab hne => lt_of_le_of_ne hab hne) hne

end AnswerKey.Files.Walk
