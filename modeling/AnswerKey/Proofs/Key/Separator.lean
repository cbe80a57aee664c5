import AnswerKey.Proofs.Key.WellFormed
import AnswerKey.Proofs.Key.Written
import AnswerKey.Proofs.Text.Padding

/-!
# The line that names the separator

The last line that begins with the separator's name settles it, wherever it stands.  Its value is
taken as it is written, as long as something other than padding stands on a line behind it; if not,
the value ends the settings, and the padding at its end goes with the padding behind the settings.
-/

namespace AnswerKey

open Text

variable {t line rest value : Text} {ls earlier later : List Text}

/-! ## Lines -/

/-- The lines of a text without the padding at its end: those behind the last line that is not
blank go, and the padding at the end of that one. -/
def trimLines : List Text → List Text
  | [] => []
  | line :: ls => if ls.all isBlank then [trimEnd line] else line :: trimLines ls

/-- A text is blank if all of its lines are. -/
theorem all_isBlank_lines (t : Text) : (lines t).all isBlank = isBlank t := by
  induction t using pieces_induction '\n' with
  | last line hline =>
    rw [lines_of_no_newline hline]
    exact Bool.and_true _
  | more line rest hline ih =>
    have hnewline : isBlank ('\n' :: rest) = isBlank rest := rfl
    rw [lines_append hline, List.all_cons, ih, ← hnewline]
    exact List.all_append.symm

/-- The padding at the end of a text goes line by line. -/
theorem lines_trimEnd (t : Text) : lines (trimEnd t) = trimLines (lines t) := by
  induction t using pieces_induction '\n' with
  | last line hline =>
    have htrim : '\n' ∉ trimEnd line := fun h => hline ((prefix_trimEnd line).subset h)
    rw [lines_of_no_newline hline, lines_of_no_newline htrim]
    rfl
  | more line rest hline ih =>
    rw [lines_append hline, trimLines, all_isBlank_lines]
    split
    · next hrest =>
      have htrim : '\n' ∉ trimEnd line := fun h => hline ((prefix_trimEnd line).subset h)
      have hblank : isBlank ('\n' :: rest) = true := hrest
      rw [trimEnd_append_of_isBlank hblank, lines_of_no_newline htrim]
    · next hrest =>
      have hne : trimEnd rest ≠ [] := fun h => hrest (trimEnd_eq_nil_iff.1 h)
      have hcons : trimEnd ('\n' :: rest) = '\n' :: trimEnd rest :=
        trimEnd_append_of_ne_nil hne ['\n']
      rw [trimEnd_append_of_ne_nil (by simp [hcons]), hcons, lines_append hline, ih]

/-- Lines in front of one that is not blank stay as they are. -/
theorem trimLines_append (h : line.isBlank = false) (earlier later : List Text) :
    trimLines (earlier ++ line :: later) = earlier ++ trimLines (line :: later) := by
  induction earlier with
  | nil => rfl
  | cons first earlier ih =>
    rw [List.cons_append, trimLines, if_neg (by simp [h]), ih]
    rfl

/-- A line that is left is the beginning of one that was there. -/
theorem exists_prefix_of_mem_trimLines (h : line ∈ trimLines ls) : ∃ whole ∈ ls, line <+: whole := by
  induction ls with
  | nil => cases h
  | cons first ls ih =>
    rw [trimLines] at h
    split at h
    · rw [List.mem_singleton] at h
      exact ⟨first, List.mem_cons_self, h ▸ prefix_trimEnd first⟩
    · rcases List.mem_cons.1 h with rfl | h
      · exact ⟨line, List.mem_cons_self, List.prefix_rfl⟩
      · obtain ⟨whole, hmem, hprefix⟩ := ih h
        exact ⟨whole, List.mem_cons_of_mem _ hmem, hprefix⟩

/-! ## The separator -/

namespace Settings

theorem readLine?_eq_some {name : Name} (h : readLine? line = some (name, value)) :
    line = name.lead ++ value := by
  obtain ⟨name', -, hname⟩ := List.exists_of_findSome?_eq_some h
  obtain ⟨value', hafter, he⟩ := Option.map_eq_some_iff.1 hname
  cases he
  exact after?_eq_some.1 hafter

/-- Only a line that begins with its name settles the separator. -/
theorem separator_step (p : Progress) (h : ¬ Name.separator.lead <+: line) :
    (step p line).settings.separator = p.settings.separator := by
  unfold step
  split
  · split <;> rfl
  · rfl
  · rfl
  · next value hline => exact (h ⟨value, (readLine?_eq_some hline).symm⟩).elim
  · rfl
  · rfl

theorem separator_foldl_step (p : Progress) (h : ∀ line ∈ ls, ¬ Name.separator.lead <+: line) :
    (ls.foldl step p).settings.separator = p.settings.separator := by
  induction ls generalizing p with
  | nil => rfl
  | cons line ls ih =>
    obtain ⟨hline, hlines⟩ := List.forall_mem_cons.1 h
    rw [List.foldl_cons, ih _ hlines, separator_step p hline]

/-- The last line with the separator's name has the last word. -/
theorem separator_read_of_lines {region : Text}
    (hlines : lines region = earlier ++ (Name.separator.lead ++ value) :: later)
    (hlater : ∀ line ∈ later, ¬ Name.separator.lead <+: line) :
    (read region).separator = value := by
  show ((lines region).foldl step {}).settings.separator = value
  rw [hlines, List.foldl_append, List.foldl_cons, separator_foldl_step _ hlater, step,
    Key.readLine?_lead]

/-- What the padding behind some settings takes off the separator. -/
theorem separator_read_trimEnd
    (hlines : lines rest = earlier ++ (Name.separator.lead ++ value) :: later)
    (hlater : ∀ line ∈ later, ¬ Name.separator.lead <+: line) :
    (read (trimEnd rest)).separator = if later.all isBlank then trimEnd value else value := by
  have hline : (Name.separator.lead ++ value).isBlank = false := rfl
  have htrim := lines_trimEnd rest
  rw [hlines, trimLines_append hline, trimLines] at htrim
  split at htrim
  · next hblank =>
    rw [trimEnd_append_of_getLast (c := '=') rfl rfl] at htrim
    rw [if_pos hblank]
    exact separator_read_of_lines htrim (List.forall_mem_nil _)
  · next hblank =>
    rw [if_neg hblank]
    refine separator_read_of_lines htrim fun line hmem hlead => ?_
    obtain ⟨whole, hwhole, hprefix⟩ := exists_prefix_of_mem_trimLines hmem
    exact hlater whole hwhole (hlead.trans hprefix)

end Settings

namespace Key

/-- What is left behind the blocks is the end of the text, from something on that is not padding. -/
theorem remaining_suffix {total : Nat} {percent : UInt32}
    (h : (readBlocks total percent t).remaining = .ok rest) : rest <:+ t ∧ trimStart rest = rest := by
  have hafter : ∀ {t body letters after : Text},
      Bracket.closing.find? t = some (body, letters, after) → trimStart after <:+ t :=
    fun hfind => (List.dropWhile_suffix _).trans (Bracket.isLocal_closing.suffix_of_find? hfind)
  fun_induction readBlocks total percent t with
  | case1 percent t hfind => cases h
  | case2 percent t body letters after hfind block sign hsign e hweight => cases h
  | case3 percent t body letters after hfind block sign hsign next rest' hweight more ih =>
    obtain ⟨hrest, htrim⟩ := ih h
    have hsuffix : sign <:+ t := (List.suffix_cons '%' sign).trans (hsign ▸ hafter hfind)
    exact ⟨hrest.trans ((readWeight_suffix hweight).trans hsuffix), htrim⟩
  | case4 percent t body letters after hfind block hlast =>
    cases h
    exact ⟨hafter hfind, List.dropWhile_idempotent _ _⟩

/-- The separator of a key that is read is the value of the last line with its name, without the
padding at its end if only blank lines follow. -/
theorem separator_of_last_line {text : Text} (hrest : (blocksOf text).remaining = .ok rest)
    (hlines : lines rest = earlier ++ (Settings.Name.separator.lead ++ value) :: later)
    (hlater : ∀ line ∈ later, ¬ Settings.Name.separator.lead <+: line) :
    ∃ key, read text = .ok key ∧ rest <:+ withoutReturns text ∧
      key.settings.separator = if later.all isBlank then trimEnd value else value := by
  obtain ⟨hsuffix, htrim⟩ := remaining_suffix hrest
  refine ⟨_, read_of_remaining hrest, hsuffix, ?_⟩
  show (Settings.read (trimEnd (trimStart rest))).separator = _
  rw [htrim]
  exact Settings.separator_read_trimEnd hlines hlater

/-- A separator of padding is kept in front of a line that is not blank. -/
theorem separator_of_last_line_kept :
    ∃ key, read "[[a]]//separator=;\r\nseparator=\t \r\nignored\n".toList = .ok key ∧
      key.settings.separator = "\t ".toList := by
  have hrest : (blocksOf "[[a]]//separator=;\r\nseparator=\t \r\nignored\n".toList).remaining =
      .ok "separator=;\nseparator=\t \nignored\n".toList := by decide +kernel
  have hlines : lines "separator=;\nseparator=\t \nignored\n".toList = ["separator=;".toList] ++
      (Settings.Name.separator.lead ++ "\t ".toList) :: ["ignored".toList, []] := by decide +kernel
  obtain ⟨key, hread, -, hseparator⟩ := separator_of_last_line hrest hlines (by decide)
  exact ⟨key, hread, hseparator⟩

/-- At the end of a key the padding behind a separator is lost. -/
theorem separator_at_end_is_trimmed :
    (blocksOf "[[a]]//\nseparator= ; ".toList).remaining =
      .ok (Settings.Name.separator.lead ++ " ; ".toList) ∧
    ∃ key, read "[[a]]//\nseparator= ; ".toList = .ok key ∧
      key.settings.separator ≠ " ; ".toList := by
  have hrest : (blocksOf "[[a]]//\nseparator= ; ".toList).remaining =
      .ok (Settings.Name.separator.lead ++ " ; ".toList) := by decide +kernel
  exact ⟨hrest, _, read_of_remaining hrest, by decide +kernel⟩

end Key
end AnswerKey
