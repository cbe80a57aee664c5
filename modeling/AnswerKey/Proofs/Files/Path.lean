import AnswerKey.Files.World
import AnswerKey.Proofs.Text.Delimiter
import AnswerKey.Proofs.Text.Order
import Mathlib.Data.List.Lex
import Mathlib.Data.List.TakeWhile

/-!
# Names and paths

A path that is joined from a directory and the name of an entry has the names of the directory and
then that name, whether or not the directory ends in a slash.  Paths are in the order of their
components, and components in the order of their bytes, so of two entries of a directory the one
whose name comes first comes first (`before_joinAll`).
-/

namespace AnswerKey.Files

open Text (bytes pieces)

/-- A name that an entry of a directory can have. -/
structure IsName (name : Text) : Prop where
  ne_nil : name ≠ []
  no_slash : '/' ∉ name
  ne_here : name ≠ Path.here
  ne_above : name ≠ Path.above
  short : Text.byteSize name ≤ maxNameSize

theorem isName_iff {name : Text} : IsName name ↔ name ≠ [] ∧ '/' ∉ name ∧ name ≠ Path.here ∧
    name ≠ Path.above ∧ Text.byteSize name ≤ maxNameSize :=
  ⟨fun h => ⟨h.1, h.2, h.3, h.4, h.5⟩, fun ⟨h, hslash, hhere, habove, hshort⟩ =>
    ⟨h, hslash, hhere, habove, hshort⟩⟩

instance (name : Text) : Decidable (IsName name) :=
  decidable_of_iff' _ isName_iff

namespace Path

variable {path name front extension : Text} {ns others : List Text}

/-! ## The names of a path -/

/-- The names of a path apart from what a slash at its end asks for. -/
def steps (path : Text) : List Text :=
  (pieces '/' path).filter (· ≠ [])

/-- A path that does not end in a slash asks for nothing more than its names. -/
theorem names_eq_steps (h : path.getLast? ≠ some '/') : names path = steps path :=
  if_neg h

/-- A slash at the end of a path adds names of the directory itself only. -/
theorem exists_names_eq (path : Text) :
    ∃ last, names path = steps path ++ last ∧ ∀ name ∈ last, name = here := by
  by_cases h : path.getLast? = some '/'
  · exact ⟨[here], if_pos h, by simp⟩
  · exact ⟨[], by rw [names_eq_steps h, List.append_nil], by simp⟩

/-- A path is joined at a slash, its own one if it ends in one. -/
theorem exists_front (directory name : Text) : ∃ front,
    join directory name = front ++ '/' :: name ∧
      (directory = front ∨ directory = front ++ ['/']) := by
  by_cases h : directory.getLast? = some '/'
  · obtain ⟨front, rfl⟩ := List.getLast?_eq_some_iff.1 h
    refine ⟨front, ?_, .inr rfl⟩
    rw [join, if_pos h, List.append_assoc]
    rfl
  · exact ⟨directory, if_neg h, .inl rfl⟩

theorem pieces_front (front : Text) : pieces '/' (front ++ ['/']) = pieces '/' front ++ [[]] := by
  have hnone : '/' ∉ ([] : Text) := List.not_mem_nil
  rw [Text.pieces_append_cons, Text.pieces_of_not_mem hnone]

/-- A name behind a slash is a piece of its own. -/
theorem pieces_front_name (h : IsName name) (front : Text) :
    pieces '/' (front ++ '/' :: name) = pieces '/' front ++ [name] := by
  rw [Text.pieces_append_cons, Text.pieces_of_not_mem h.no_slash]

/-- A slash at the end adds no name. -/
theorem steps_front (front : Text) : steps (front ++ ['/']) = steps front := by
  unfold steps
  rw [pieces_front, List.filter_append]
  simp

theorem steps_front_name (h : IsName name) (front : Text) :
    steps (front ++ '/' :: name) = steps front ++ [name] := by
  unfold steps
  rw [pieces_front_name h, List.filter_append]
  simp [h.ne_nil]

/-- A joined path has the names of the directory and then the new one. -/
theorem steps_join (h : IsName name) (directory : Text) :
    steps (join directory name) = steps directory ++ [name] := by
  obtain ⟨front, hjoin, rfl | rfl⟩ := exists_front directory name
  · rw [hjoin, steps_front_name h]
  · rw [hjoin, steps_front_name h, steps_front]

/-- A joined path ends as its last name does, and so in no slash. -/
theorem getLast?_join (h : IsName name) (directory : Text) :
    (join directory name).getLast? = name.getLast? := by
  obtain ⟨front, hjoin, -⟩ := exists_front directory name
  obtain ⟨c, t, rfl⟩ := List.exists_cons_of_ne_nil h.ne_nil
  rw [hjoin, List.getLast?_append, List.getLast?_cons_cons]
  rfl

/-- A name is no path that asks for a directory. -/
theorem names_join (h : IsName name) (directory : Text) :
    names (join directory name) = steps directory ++ [name] := by
  have hlast : (join directory name).getLast? ≠ some '/' := by
    rw [getLast?_join h]
    intro hslash
    exact h.no_slash (List.mem_of_getLast? hslash)
  rw [names_eq_steps hlast, steps_join h]

theorem join_ne_nil (directory name : Text) : join directory name ≠ [] := by
  obtain ⟨front, hjoin, -⟩ := exists_front directory name
  rw [hjoin]
  exact List.append_ne_nil_of_right_ne_nil _ (List.cons_ne_nil _ _)

/-- A path starts where the path of its directory does. -/
theorem isAbsolute_join (h : path ≠ []) (name : Text) :
    isAbsolute (join path name) = isAbsolute path := by
  obtain ⟨c, t, rfl⟩ := List.exists_cons_of_ne_nil h
  unfold join
  split <;> rfl

/-! ## Components -/

/-- A component of a path.  The names of the directory itself are left out, but for one at the
start of a path. -/
inductive Component where
  | root
  | here
  | above
  | name (bytes : List UInt8)

namespace Component

/-- The place of a component among those of other kinds. -/
def rank : Component → Nat
  | .root => 0
  | .here => 1
  | .above => 2
  | .name _ => 3

/-- The order of components: names are in the order of their bytes. -/
inductive Before : Component → Component → Prop where
  | rank {a b : Component} (h : a.rank < b.rank) : Before a b
  | name {s t : List UInt8} (h : s < t) : Before (.name s) (.name t)

theorem Before.ne {a b : Component} (h : Before a b) : a ≠ b := by
  rintro rfl
  cases h with
  | rank h => exact Nat.lt_irrefl _ h
  | name h => exact List.lt_irrefl _ h

/-- The component that a piece between slashes makes, where it is not the start of the path. -/
def ofPiece? (piece : Text) : Option Component :=
  if piece = [] ∨ piece = Path.here then none
  else if piece = Path.above then some .above
  else some (.name (bytes piece))

/-- A name is a component that is compared by its bytes. -/
theorem ofPiece?_of_isName (h : IsName name) : ofPiece? name = some (.name (bytes name)) := by
  unfold ofPiece?
  rw [if_neg (not_or.2 ⟨h.ne_nil, h.ne_here⟩), if_neg h.ne_above]

end Component

/-- What stands at the start of a path apart from names. -/
def start (path : Text) : List Component :=
  if isAbsolute path then [.root]
  else if (pieces '/' path).head? = some here then [.here]
  else []

/-- The components of a path. -/
def components (path : Text) : List Component :=
  start path ++ (pieces '/' path).filterMap Component.ofPiece?

/-- A joined path starts where the directory does. -/
theorem start_join (hpath : path ≠ []) (h : IsName name) : start (join path name) = start path := by
  have hhead : (pieces '/' (join path name)).head? = (pieces '/' path).head? := by
    obtain ⟨front, hjoin, hpath⟩ := exists_front path name
    have hne : pieces '/' front ≠ [] := Text.Delimiter.split_ne_nil
    rw [hjoin, pieces_front_name h, List.head?_append_of_ne_nil _ hne]
    rcases hpath with rfl | rfl
    · rfl
    · rw [pieces_front, List.head?_append_of_ne_nil _ hne]
  unfold start
  rw [isAbsolute_join hpath, hhead]

/-- Joining adds one component. -/
theorem components_join (hpath : path ≠ []) (h : IsName name) :
    components (join path name) = components path ++ [.name (bytes name)] := by
  have hname : [name].filterMap Component.ofPiece? = [.name (bytes name)] := by
    rw [List.filterMap_cons, Component.ofPiece?_of_isName h]
    rfl
  have hpieces : (pieces '/' (join path name)).filterMap Component.ofPiece? =
      (pieces '/' path).filterMap Component.ofPiece? ++ [.name (bytes name)] := by
    obtain ⟨front, hjoin, rfl | rfl⟩ := exists_front path name
    · rw [hjoin, pieces_front_name h, List.filterMap_append, hname]
    · have hnothing : [([] : Text)].filterMap Component.ofPiece? = [] := rfl
      rw [hjoin, pieces_front_name h, pieces_front, List.filterMap_append, List.filterMap_append,
        hname, hnothing, List.append_nil]
  unfold components
  rw [start_join hpath h, hpieces, List.append_assoc]

/-- Joining names adds their components in order. -/
theorem components_joinAll (hpath : path ≠ []) (h : ∀ name ∈ ns, IsName name) :
    components (joinAll path ns) = components path ++ ns.map fun name => .name (bytes name) := by
  induction ns generalizing path with
  | nil => exact (List.append_nil _).symm
  | cons name ns ih =>
    obtain ⟨hname, hns⟩ := List.forall_mem_cons.1 h
    show components (joinAll (join path name) ns) = _
    rw [ih (join_ne_nil path name) hns, components_join hpath hname, List.append_assoc]
    rfl

/-- Whether a path comes before another one: component by component. -/
def Before (path other : Text) : Prop :=
  List.Lex Component.Before (components path) (components other)

theorem Before.ne {other : Text} (h : Before path other) : path ≠ other := by
  have hcomponents : components path ≠ components other :=
    (List.Lex.imp (fun _ _ => Component.Before.ne) _ _ h).to_ne
  rintro rfl
  exact hcomponents rfl

/-- Below a directory, paths are in the order of the names that lead there. -/
theorem before_joinAll (hpath : path ≠ []) (hns : ∀ name ∈ ns, IsName name)
    (hothers : ∀ name ∈ others, IsName name) (h : ns < others) :
    Before (joinAll path ns) (joinAll path others) := by
  have hlex : List.Lex Component.Before (ns.map fun name => .name (bytes name))
      (others.map fun name => .name (bytes name)) := by
    clear hns hothers
    induction h with
    | nil => exact .nil
    | rel h => exact .rel (.name (Text.bytes_lt_bytes h))
    | cons _ ih => exact .cons ih
  unfold Before
  rw [components_joinAll hpath hns, components_joinAll hpath hothers]
  exact hlex.append_left _ _

/-! ## Extensions -/

/-- An extension is what stands behind the last dot of a name that something stands before. -/
theorem extension?_eq_some_iff : extension? name = some extension ↔
    '.' ∉ extension ∧ ∃ stem, stem ≠ [] ∧ name = stem ++ '.' :: extension := by
  constructor
  · intro h
    unfold extension? at h
    split at h
    · next c rest hdrop =>
      obtain rfl := Option.some.inj h
      have hsplit := List.takeWhile_append_dropWhile (p := (· ≠ '.')) (l := name.reverse)
      rw [hdrop] at hsplit
      refine ⟨?_, (c :: rest).reverse, by simp, ?_⟩
      · intro hdot
        simpa using List.mem_takeWhile_imp (List.mem_reverse.1 hdot)
      · rw [← List.reverse_inj]
        simpa using hsplit.symm
    · cases h
  · rintro ⟨hdot, stem, hstem, rfl⟩
    have hall : ∀ c ∈ extension.reverse, decide (c ≠ '.') = true := by
      intro c hc
      have hne : c ≠ '.' := by
        rintro rfl
        exact hdot (List.mem_reverse.1 hc)
      exact decide_eq_true hne
    -- the name is read from its end, up to the last dot
    have hreverse : (stem ++ '.' :: extension).reverse =
        extension.reverse ++ '.' :: stem.reverse := by
      simp
    have hdrop : (stem ++ '.' :: extension).reverse.dropWhile (· ≠ '.') = '.' :: stem.reverse := by
      rw [hreverse, List.dropWhile_append_of_pos hall]
      rfl
    have htake : (stem ++ '.' :: extension).reverse.takeWhile (· ≠ '.') = extension.reverse := by
      rw [hreverse, List.takeWhile_append_of_pos hall]
      exact List.append_nil _
    obtain ⟨c, rest, hcons⟩ := List.exists_cons_of_ne_nil (List.reverse_ne_nil_iff.2 hstem)
    unfold extension?
    rw [hdrop, htake, hcons]
    simp

end Path
end AnswerKey.Files
