import AnswerKey.Files.Walk
import AnswerKey.Proofs.Traversal

/-!
# What a walk finds

A walk finds files below a directory.  Each of them is found by names whose last one has the wanted
extension, so no path that is found is as short as a dash.
-/

namespace AnswerKey.Files

variable {w : World} {here : Visit} {above : List Visit} {entries : List (Text × Node)}
  {path name : Text} {place : Place} {names : List Text}

namespace Path

/-- A path ends as its last name does. -/
theorem suffix_join (directory name : Text) : name <:+ join directory name := by
  unfold join
  split
  · exact List.suffix_append _ _
  · exact (List.suffix_cons _ _).trans (List.suffix_append _ _)

theorem suffix_joinAll {name : Text} (h : name ∈ names.getLast?) (directory : Text) :
    name <:+ joinAll directory names := by
  obtain ⟨init, rfl⟩ := List.getLast?_eq_some_iff.1 h
  unfold joinAll
  rw [List.foldl_append]
  exact suffix_join _ _

/-- An extension is at the end of its name. -/
theorem suffix_extension {extension : Text} (h : extension? name = some extension) :
    extension <:+ name := by
  unfold extension? at h
  split at h
  · obtain rfl := Option.some.inj h
    rw [← List.reverse_prefix, List.reverse_reverse]
    exact List.takeWhile_prefix _
  · cases h

end Path

namespace Walk

/-- Names of which the last one has the wanted extension. -/
def EndsWanted (names : List Text) : Prop :=
  ∃ name ∈ names.getLast?, Path.extension? name = some extension

theorem EndsWanted.cons (h : EndsWanted names) (name : Text) : EndsWanted (name :: names) := by
  obtain ⟨last, hlast, hextension⟩ := h
  refine ⟨last, ?_, hextension⟩
  rw [Option.mem_def] at hlast ⊢
  rw [List.getLast?_cons, hlast]
  rfl

/-- A file is taken up by its own name, if it is wanted. -/
theorem endsWanted_of_mem_own :
    ∀ names ∈ if wanted path name then [[name]] else [], EndsWanted names := by
  intro names hnames
  split at hnames
  · next hwanted =>
    obtain rfl := List.mem_singleton.1 hnames
    unfold wanted at hwanted
    obtain ⟨-, hextension⟩ := Bool.and_eq_true_iff.1 hwanted
    exact ⟨name, rfl, beq_iff_eq.1 hextension⟩
  · cases hnames

/-- Whatever a walk goes through, it takes up wanted files only. -/
theorem endsWanted_of_mem_collect {found : List (List Text)}
    (h : collect w here above entries = .ok found) : ∀ names ∈ found, EndsWanted names := by
  fun_induction collect w here above entries generalizing found with
  | case1 =>
    cases h
    exact List.forall_mem_nil _
  | case2 => cases h
  | case3 here above name node rest hlook own =>
    rename_i ih
    obtain ⟨others, hothers, rfl⟩ := Traversal.map_eq_ok_iff.1 h
    exact List.forall_mem_append.2 ⟨endsWanted_of_mem_own, ih hothers⟩
  | case4 => cases h
  | case5 here above name node rest place inner hlook below hbelow ihbelow ih =>
    obtain ⟨others, hothers, rfl⟩ := Traversal.map_eq_ok_iff.1 h
    refine List.forall_mem_append.2 ⟨fun names hnames => ?_, ih hothers⟩
    obtain ⟨names, hmem, rfl⟩ := List.mem_map.1 hnames
    exact (ihbelow hbelow names hmem).cons name

end Walk
end AnswerKey.Files
