import AnswerKey.Text

/-!
# File trees

A file tree holds files, links and directories.  A place in it is the list of
names that lead there from the top, without links.  In a proper tree no directory
has two entries of one name; `Node.insert` keeps a tree proper.
-/

namespace AnswerKey.Files

/-- The names that lead from the top of a tree to a place in it, outermost first. -/
abbrev Place := List Text

/-- A file tree. -/
inductive Node where
  | file (bytes : ByteArray)
  | link (target : Text)
  | dir (entries : List (Text × Node))

/-- The entries with the one of this name replaced, or with a new one at the end. -/
def put (name : Text) (node : Node) : List (Text × Node) → List (Text × Node)
  | [] => [(name, node)]
  | (n, old) :: entries =>
    if n = name then (n, node) :: entries else (n, old) :: put name node entries

theorem mem_put {name : Text} {node : Node} {entries : List (Text × Node)} {e : Text × Node}
    (h : e ∈ put name node entries) : e = (name, node) ∨ e ∈ entries := by
  induction entries with
  | nil => exact .inl (by simpa [put] using h)
  | cons head entries ih =>
    obtain ⟨n, old⟩ := head
    by_cases hn : n = name
    · simp only [put, hn, if_true, List.mem_cons] at h ⊢
      exact h.imp_right .inr
    · simp only [put, hn, if_false, List.mem_cons] at h ⊢
      rcases h with h | h
      · exact .inr (.inl h)
      · exact (ih h).imp_right .inr

theorem names_put (name : Text) (node : Node) (entries : List (Text × Node)) :
    (put name node entries).map Prod.fst =
      if name ∈ entries.map Prod.fst then entries.map Prod.fst
      else entries.map Prod.fst ++ [name] := by
  induction entries with
  | nil => simp [put]
  | cons head entries ih =>
    obtain ⟨n, old⟩ := head
    by_cases hn : n = name
    · simp [put, hn]
    · by_cases hm : name ∈ entries.map Prod.fst
      · simp_all [put, Ne.symm hn]
      · simp_all [put, Ne.symm hn]

namespace Node

/-- A directory without entries. -/
def empty : Node := dir []

/-- The node at a place, links not followed. -/
def at? : Node → Place → Option Node
  | node, [] => some node
  | dir entries, name :: place => (entries.lookup name).bind fun node => node.at? place
  | file _, _ :: _ => none
  | link _, _ :: _ => none

/-- The tree with `content` at a place; what is no directory on the way becomes one. -/
def insert (content : Node) : Node → Place → Node
  | _, [] => content
  | dir entries, name :: place =>
    dir (put name (insert content ((entries.lookup name).getD empty) place) entries)
  | file _, name :: place => dir [(name, insert content empty place)]
  | link _, name :: place => dir [(name, insert content empty place)]

/-- No directory of the tree has two entries of one name. -/
inductive Proper : Node → Prop where
  | file (bytes : ByteArray) : Proper (.file bytes)
  | link (target : Text) : Proper (.link target)
  | dir {entries : List (Text × Node)} (distinct : (entries.map Prod.fst).Nodup)
      (below : ∀ e ∈ entries, Proper e.2) : Proper (.dir entries)

theorem proper_empty : empty.Proper :=
  .dir (by simp) (by simp)

theorem mem_of_lookup {name : Text} {node : Node} {entries : List (Text × Node)}
    (h : entries.lookup name = some node) : (name, node) ∈ entries := by
  induction entries with
  | nil => simp at h
  | cons head entries ih =>
    obtain ⟨n, old⟩ := head
    by_cases hn : name = n
    · subst hn
      rw [List.lookup_cons_self] at h
      simp_all
    · have hb : (name == n) = false := by simpa using hn
      rw [List.lookup_cons, hb] at h
      exact .tail _ (ih h)

theorem Proper.insert {content : Node} (hc : content.Proper) {node : Node} (hn : node.Proper)
    (place : Place) : (Node.insert content node place).Proper := by
  induction place generalizing node with
  | nil => cases node <;> exact hc
  | cons name place ih =>
    cases hn with
    | file bytes =>
      refine .dir (by simp) fun e he => ?_
      obtain rfl := by simpa using he
      exact ih proper_empty
    | link target =>
      refine .dir (by simp) fun e he => ?_
      obtain rfl := by simpa using he
      exact ih proper_empty
    | @dir entries distinct below =>
      refine .dir ?_ fun e he => ?_
      · rw [names_put]
        by_cases hm : name ∈ entries.map Prod.fst
        · simpa [hm] using distinct
        · rw [if_neg hm]
          exact List.nodup_append.2 ⟨distinct, by simp, fun a ha b hb => by
            rintro rfl
            exact hm (by simpa [List.mem_singleton.1 hb] using ha)⟩
      · rcases mem_put he with rfl | he
        · refine ih ?_
          cases hl : entries.lookup name with
          | none => exact proper_empty
          | some child => exact below _ (mem_of_lookup hl)
        · exact below e he

/-- The places of all directories of the tree. -/
def directories : Node → List Place
  | dir entries => [] :: entries.flatMap fun e => e.2.directories.map (e.1 :: ·)
  | file _ => []
  | link _ => []
decreasing_by
  have hlt := List.sizeOf_lt_of_mem ‹_›
  have hpair : sizeOf e = 1 + sizeOf e.1 + sizeOf e.2 := rfl
  simp only [dir.sizeOf_spec]
  omega

theorem mem_directories {node : Node} {place : Place} {entries : List (Text × Node)}
    (h : node.at? place = some (dir entries)) : place ∈ node.directories := by
  induction place generalizing node with
  | nil =>
    cases node <;> simp_all [at?, directories]
  | cons name place ih =>
    cases node with
    | file bytes => simp [at?] at h
    | link target => simp [at?] at h
    | dir siblings =>
      obtain ⟨child, hl, hc⟩ := Option.bind_eq_some_iff.1 (show _ = some _ from h)
      rw [directories]
      refine .tail _ (List.mem_flatMap.2 ⟨(name, child), mem_of_lookup hl, ?_⟩)
      exact List.mem_map.2 ⟨place, ih hc, rfl⟩

end Node
end AnswerKey.Files
