import AnswerKey.Proofs.Files.Path
import AnswerKey.Proofs.Files.World

/-!
# Entries of directories

The path of an entry is the path of its directory joined with its name, and leads to the entry
itself unless that is a link (`locate_join`).  What is below a directory is what its entries lead to
and what is below them, links or not (`LeadsDown`).
-/

namespace AnswerKey.Files

variable {place target : Place} {name path : Text} {ns : List Text} {node : Node}
  {entries : List (Text × Node)}

/-! ## Places -/

namespace Node

/-- What holds for a tree and goes from a directory to its entries holds at all places. -/
theorem at?_of_hereditary {P : Node → Prop} {root : Node}
    (hbelow : ∀ entries, P (.dir entries) → ∀ e ∈ entries, P e.2) (h : P root)
    (hat : root.at? place = some node) : P node := by
  induction place generalizing root with
  | nil =>
    cases root <;> (obtain rfl := Option.some.inj hat; exact h)
  | cons name place ih =>
    cases root with
    | file | link => cases hat
    | dir entries =>
      obtain ⟨child, hlookup, hchild⟩ := Option.bind_eq_some_iff.1 (show _ = some _ from hat)
      exact ih (hbelow entries h _ (mem_of_lookup hlookup)) hchild

theorem proper_dir_iff : Proper (.dir entries) ↔
    (entries.map Prod.fst).Nodup ∧ ∀ e ∈ entries, e.2.Proper := by
  constructor
  · intro h
    cases h with
    | dir distinct below => exact ⟨distinct, below⟩
  · rintro ⟨distinct, below⟩
    exact .dir distinct below

/-- What stands in a proper tree is proper. -/
theorem Proper.at? {root : Node} (h : root.Proper) (hat : root.at? place = some node) :
    node.Proper :=
  at?_of_hereditary (fun _ hdir => (proper_dir_iff.1 hdir).2) h hat

/-- Every entry of every directory of the tree has a name that an entry can have. -/
inductive Named : Node → Prop where
  | file (bytes : ByteArray) : Named (.file bytes)
  | link (target : Text) : Named (.link target)
  | dir {entries : List (Text × Node)} (own : ∀ e ∈ entries, IsName e.1)
      (below : ∀ e ∈ entries, Named e.2) : Named (.dir entries)

theorem named_dir_iff : Named (.dir entries) ↔
    (∀ e ∈ entries, IsName e.1) ∧ ∀ e ∈ entries, e.2.Named := by
  constructor
  · intro h
    cases h with
    | dir own below => exact ⟨own, below⟩
  · rintro ⟨own, below⟩
    exact .dir own below

theorem Named.isName {root : Node} (h : root.Named)
    (hat : root.at? place = some (.dir entries)) : ∀ e ∈ entries, IsName e.1 := by
  have hdir : Named (.dir entries) :=
    at?_of_hereditary (fun _ hdir => (named_dir_iff.1 hdir).2) h hat
  exact (named_dir_iff.1 hdir).1

/-- What a name is an entry for is found under it, as there is one entry of that name. -/
theorem Proper.lookup_of_mem (h : Proper (.dir entries)) (hmem : (name, node) ∈ entries) :
    entries.lookup name = some node := by
  obtain ⟨before, after, rfl⟩ := List.append_of_mem hmem
  have hnodup := (proper_dir_iff.1 h).1
  rw [List.map_append, List.nodup_append] at hnodup
  refine List.lookup_eq_some_iff.2 ⟨before, after, rfl, fun other hother => ?_⟩
  have hne := hnodup.2.2 other.1 (List.mem_map_of_mem hother) name (by simp)
  exact bne_iff_ne.2 (Ne.symm hne)

theorem at?_append (root : Node) (place others : Place) :
    root.at? (place ++ others) = (root.at? place).bind (·.at? others) := by
  induction place generalizing root with
  | nil => cases root <;> rfl
  | cons name place ih =>
    cases root with
    | file | link => rfl
    | dir entries =>
      show (entries.lookup name).bind _ = ((entries.lookup name).bind _).bind _
      rw [Option.bind_assoc]
      exact Option.bind_congr fun child _ => ih child

/-- The place of an entry is the place of its directory and its name. -/
theorem at?_entry {root : Node} (h : root.Proper) (hat : root.at? place = some (.dir entries))
    (hmem : (name, node) ∈ entries) : root.at? (place ++ [name]) = some node := by
  have hlookup : entries.lookup name = some node := (h.at? hat).lookup_of_mem hmem
  rw [at?_append, hat]
  show (entries.lookup name).bind _ = some node
  rw [hlookup]
  cases node <;> rfl

end Node

namespace World

variable {w : World} {links : Nat}

/-! ## Following one name -/

section Follow

variable (hat : w.root.at? place = some (.dir entries))

include hat

/-- A dot leads nowhere else. -/
theorem follow_here (links : Nat) (ns : List Text) :
    w.follow links place (Path.here :: ns) = w.follow links place ns := by
  rw [follow]
  simp only [hat, if_true]

/-- Two dots lead to the directory above, and at the root to the root. -/
theorem follow_above (links : Nat) (ns : List Text) :
    w.follow links place (Path.above :: ns) = w.follow links place.dropLast ns := by
  have hne : Path.above ≠ Path.here := by decide
  rw [follow]
  simp only [hat, if_neg hne, if_true]

variable (hhere : name ≠ Path.here) (habove : name ≠ Path.above)
  (hshort : ¬ Text.byteSize name > maxNameSize)

include hhere habove hshort

/-- A link is followed from where its text starts, before the names behind it. -/
theorem follow_link {t : Text} (hlookup : entries.lookup name = some (.link t)) (links : Nat)
    (ns : List Text) : w.follow (links + 1) place (name :: ns) =
      w.follow links (startOf place t) (Path.names t ++ ns) := by
  rw [follow]
  simp only [hat, if_neg hhere, if_neg habove, if_neg hshort, hlookup]

/-- An entry that is no link is gone into. -/
theorem follow_entry (hlookup : entries.lookup name = some node) (hlink : ∀ t, node ≠ .link t)
    (links : Nat) (ns : List Text) :
    w.follow links place (name :: ns) = w.follow links (place ++ [name]) ns := by
  rw [follow]
  simp only [hat, if_neg hhere, if_neg habove, if_neg hshort, hlookup]

end Follow

/-- The last names of a path can be replaced by others that lead on from wherever they lead. -/
theorem follow_append {last others : List Text} {target other : Place}
    (hlast : ∀ links place, w.follow links place last = .ok target →
      w.follow links place others = .ok other)
    (h : w.follow links place (ns ++ last) = .ok target) :
    w.follow links place (ns ++ others) = .ok other := by
  fun_induction follow w links place ns with
  | case1 => exact hlast _ _ h
  | case2 links place ns entries hat ih =>
    rw [List.cons_append, follow_here hat] at h ⊢
    exact ih h
  | case3 links place ns entries hat _ ih =>
    rw [List.cons_append, follow_above hat] at h ⊢
    exact ih h
  | case7 place name ns entries hat hhere habove hshort t hlookup links ih =>
    rw [List.cons_append, follow_link hat hhere habove hshort hlookup, ← List.append_assoc] at h ⊢
    exact ih h
  | case8 links place name ns entries hat hhere habove hshort node hlink hlookup ih =>
    rw [List.cons_append, follow_entry hat hhere habove hshort hlookup hlink] at h ⊢
    exact ih h
  | case4 | case5 | case6 | case9 =>
    -- a name that cannot be followed fails whatever is behind it
    rw [List.cons_append, follow] at h
    simp only [*, if_true, if_false, reduceCtorEq] at h

/-- Names of the directory itself lead nowhere else. -/
theorem follow_stays (hns : ∀ name ∈ ns, name = Path.here)
    (h : w.follow links place ns = .ok target) : place = target := by
  induction ns with
  | nil =>
    rw [follow] at h
    exact Except.ok.inj h
  | cons name ns ih =>
    obtain ⟨rfl, hrest⟩ := List.forall_mem_cons.1 hns
    have hstay : w.follow links place ns = .ok target := by
      rw [follow] at h
      split at h
      · exact h
      · cases h
    exact ih hrest hstay

/-! ## Entries of a directory -/

theorem entries?_eq_some_iff : w.entries? path = some (place, entries) ↔
    w.locate path = .ok place ∧ w.root.at? place = some (.dir entries) := by
  unfold entries?
  cases hlocate : w.locate path with
  | error e => simp
  | ok found =>
    simp only [Except.ok.injEq]
    split
    · next found' inner hat =>
      constructor
      · rintro ⟨⟩
        exact ⟨rfl, hat⟩
      · rintro ⟨rfl, hplace⟩
        rw [hat] at hplace
        cases hplace
        rfl
    · next hnot =>
      refine iff_of_false (by simp) ?_
      rintro ⟨rfl, hplace⟩
      exact hnot _ hplace

/-- A path leads somewhere if it is neither empty nor too long and its names can be followed. -/
theorem locate_eq_ok_iff : w.locate path = .ok place ↔ path ≠ [] ∧ Path.fits path = true ∧
    w.follow maxLinks (startOf w.current path) (Path.names path) = .ok place := by
  unfold locate
  split
  · next hpath => simp [hpath]
  · next hpath =>
    split
    · next hfits => simp_all
    · next hfits => simp_all

/-- The path of an entry leads to it. -/
theorem locate_join (hentries : w.entries? path = some (place, entries)) (hname : IsName name)
    (hmem : (name, node) ∈ entries) (hlink : ∀ t, node ≠ .link t)
    (hfits : Path.fits (Path.join path name) = true) :
    w.locate (Path.join path name) = .ok (place ++ [name]) := by
  obtain ⟨hlocate, hat⟩ := entries?_eq_some_iff.1 hentries
  obtain ⟨hpath, -, hfollow⟩ := locate_eq_ok_iff.1 hlocate
  have hlookup : entries.lookup name = some node := (w.proper.at? hat).lookup_of_mem hmem
  have hshort : ¬ Text.byteSize name > maxNameSize := Nat.not_lt.2 hname.short
  -- from the directory the name leads to the entry, with or without a name of the directory itself
  have hentry : ∀ links, w.follow links place [name] = .ok (place ++ [name]) := by
    intro links
    rw [follow_entry hat hname.ne_here hname.ne_above hshort hlookup hlink, follow]
  have hstart : startOf w.current (Path.join path name) = startOf w.current path := by
    unfold startOf
    rw [Path.isAbsolute_join hpath]
  refine locate_eq_ok_iff.2 ⟨Path.join_ne_nil path name, hfits, ?_⟩
  rw [hstart, Path.names_join hname]
  obtain ⟨last, hnames, hlast⟩ := Path.exists_names_eq path
  rw [hnames] at hfollow
  refine follow_append (fun links at' hstays => ?_) hfollow
  obtain rfl := follow_stays hlast hstays
  exact hentry links

/-! ## Below a directory -/

/-- Whether a path leads to a file. -/
def IsFile (w : World) (path : Text) : Prop :=
  ∃ place bytes, w.locate path = .ok place ∧ w.root.at? place = some (.file bytes)

/-- Whether names lead down from a path: each is the name of an entry of the directory that those
before it lead to, through links too. -/
def LeadsDown (w : World) (path : Text) : List Text → Prop
  | [] => True
  | name :: ns =>
    (∃ place entries, w.entries? path = some (place, entries) ∧ name ∈ entries.map Prod.fst) ∧
      w.LeadsDown (Path.join path name) ns

theorem IsFile.fits (h : w.IsFile path) : Path.fits path = true := by
  obtain ⟨place, bytes, hlocate, -⟩ := h
  exact (locate_eq_ok_iff.1 hlocate).2.1

theorem IsFile.entries?_eq_none (h : w.IsFile path) : w.entries? path = none := by
  obtain ⟨place, bytes, hlocate, hfile⟩ := h
  by_contra hsome
  obtain ⟨⟨found, entries⟩, hentries⟩ := Option.ne_none_iff_exists'.1 hsome
  obtain ⟨hfound, hdir⟩ := entries?_eq_some_iff.1 hentries
  rw [hlocate] at hfound
  obtain rfl := Except.ok.inj hfound
  rw [hfile] at hdir
  cases hdir

/-- No directory is at the path of a file, however long the path is. -/
theorem entries?_eq_none_of_fits (h : Path.fits path = true → w.IsFile path) :
    w.entries? path = none := by
  by_contra hsome
  obtain ⟨⟨place, entries⟩, hentries⟩ := Option.ne_none_iff_exists'.1 hsome
  have hfits : Path.fits path = true :=
    (locate_eq_ok_iff.1 (entries?_eq_some_iff.1 hentries).1).2.1
  exact hsome (h hfits).entries?_eq_none

/-- Names lead down from a directory if the first one is there and the others lead down from it. -/
theorem leadsDown_cons_iff (hentries : w.entries? path = some (place, entries))
    (hname : name ∈ entries.map Prod.fst) :
    w.LeadsDown path (name :: ns) ↔ w.LeadsDown (Path.join path name) ns := by
  constructor
  · rintro ⟨-, hleads⟩
    exact hleads
  · intro hleads
    exact ⟨⟨place, entries, hentries, hname⟩, hleads⟩

/-- The first name that leads down from a directory is one of its entries. -/
theorem LeadsDown.mem_of_cons (h : w.LeadsDown path (name :: ns))
    (hentries : w.entries? path = some (place, entries)) : name ∈ entries.map Prod.fst := by
  obtain ⟨⟨found, inner, hfound, hname⟩, -⟩ := h
  rw [hentries] at hfound
  cases hfound
  exact hname

/-- Nothing leads down from what is no directory. -/
theorem LeadsDown.eq_nil (h : w.LeadsDown path ns) (hnone : w.entries? path = none) : ns = [] := by
  cases ns with
  | nil => rfl
  | cons name ns =>
    obtain ⟨⟨place, entries, hentries, -⟩, -⟩ := h
    rw [hnone] at hentries
    cases hentries

/-- What leads down from a path are names that entries can have. -/
theorem LeadsDown.isName (hw : w.root.Named) (h : w.LeadsDown path ns) :
    ∀ name ∈ ns, IsName name := by
  induction ns generalizing path with
  | nil => exact List.forall_mem_nil _
  | cons name ns ih =>
    obtain ⟨⟨place, entries, hentries, hname⟩, hleads⟩ := h
    obtain ⟨⟨name, node⟩, hmem, rfl⟩ := List.mem_map.1 hname
    obtain ⟨-, hat⟩ := entries?_eq_some_iff.1 hentries
    exact List.forall_mem_cons.2 ⟨hw.isName hat _ hmem, ih hleads⟩

end World
end AnswerKey.Files
