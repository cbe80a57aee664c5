import AnswerKey.Proofs.Key.Reader
import AnswerKey.Proofs.Text.Piece
import AnswerKey.Scoring

/-!
# What every key is like

Whatever text a key is read from, it has blocks, every block has patterns, and no pattern holds
anything that would have ended it.  The settings are made of parts of lines.  A text that is no key
gives no points.
-/

namespace AnswerKey

open Text

variable {t body letters after rest region line value : Text}

/-! ## Brackets -/

namespace Bracket

variable {α : Type} {d : Delimiter α}

/-- Whether a delimiter is read does not depend on what follows it. -/
theorem ClosesFirst.isLocal (hd : ClosesFirst d) : d.IsLocal where
  read?_append := by
    intro t a rest h more
    obtain ⟨tail, -, -, rfl, hmore⟩ := hd h
    have hread := hmore (rest ++ more)
    rwa [← List.append_assoc tail rest more] at hread
  suffix_of_read? := by
    intro t a rest h
    obtain ⟨tail, -, -, rfl, -⟩ := hd h
    exact ⟨']' :: ']' :: tail, rfl⟩

theorem isLocal_closing : closing.IsLocal :=
  ClosesFirst.isLocal closesFirst_closing

theorem isLocal_boundary : boundary.IsLocal :=
  ClosesFirst.isLocal closesFirst_boundary

/-- A part in which a block ends makes the whole have such an end. -/
theorem HasClosing.mono {p : Text} (h : HasClosing p) (hpart : p <:+: t) : HasClosing t := by
  obtain ⟨before, gap, letters, rest, hgap, hletters, rfl⟩ := h
  obtain ⟨s, e, rfl⟩ := hpart
  exact ⟨s ++ before, gap, letters, rest ++ e, hgap, hletters, by simp⟩

/-- No block ends in the body of a block. -/
theorem not_hasClosing_body (h : closing.find? t = some (body, letters, after)) :
    ¬ HasClosing body :=
  find?_closing_eq_none_iff.1 (isLocal_closing.find?_before h)

end Bracket

/-! ## Patterns -/

/-- A pattern that nothing in it could end early. -/
structure IsPattern (p : Text) : Prop where
  no_return : '\r' ∉ p
  no_closing : ¬ Bracket.HasClosing p
  no_boundary : ¬ Bracket.HasBoundary p

/-- A block with patterns, and no padding behind the last one. -/
structure Block.WellFormed (b : Block) : Prop where
  patterns_ne_nil : b.patterns ≠ []
  isPattern : ∀ p ∈ b.patterns, IsPattern p
  last_end : ∀ p ∈ b.patterns.getLast?, ∀ c ∈ p.getLast?, isPadding c = false

namespace Key

/-- What is cut into patterns is the end of the trimmed body. -/
theorem opened_suffix (t : Text) : (after? ['[', '['] t).getD t <:+ t := by
  cases h : after? ['[', '['] t with
  | none => exact List.suffix_rfl
  | some rest => exact ⟨['[', '['], (after?_eq_some.1 h).symm⟩

/-- What is read between boundaries is a pattern: it could be written in a key. -/
theorem isPattern_of_mem_readPatterns {p : Text} (h : p ∈ readPatterns body)
    (hreturn : '\r' ∉ body) (hclosing : ¬ Bracket.HasClosing body) : IsPattern p := by
  have hpiece := Bracket.isLocal_boundary.infix_of_mem_split h
  have hpart : p <:+: body := (hpiece.trans (opened_suffix _).isInfix).trans (infix_trim body)
  have hnone := Bracket.isLocal_boundary.find?_of_mem_split h
  exact {
    no_return := fun hp => hreturn (hpart.subset hp)
    no_closing := fun hp => hclosing (hp.mono hpart)
    no_boundary := Bracket.find?_boundary_eq_none_iff.1 hnone }

/-- A pattern that ends a trimmed body does not end with padding. -/
theorem last_end_readPatterns (body : Text) :
    ∀ p ∈ (readPatterns body).getLast?, ∀ c ∈ p.getLast?, isPadding c = false := by
  intro p hp c hc
  have hlast := Bracket.isLocal_boundary.suffix_of_getLast? hp
  obtain ⟨s, hs⟩ := hlast.trans (opened_suffix _)
  have hne : p ≠ [] := by
    intro he
    subst he
    cases hc
  refine getLast?_trimEnd (trimStart body) c ?_
  show c ∈ (trim body).getLast?
  rwa [← hs, getLast?_append_of_ne_nil hne]

/-! ## Blocks -/

theorem readWeight_suffix {offset : Nat} {percent : UInt32}
    (h : readWeight offset t = .ok (percent, rest)) : rest <:+ t := by
  obtain ⟨digits, rfl, -⟩ := readWeight_eq_ok_iff.1 h
  exact List.suffix_append digits rest

/-- Blocks read of a text without returns: they are in order, and if nothing failed there is one
and no return follows. -/
structure Blocks.Sound (b : Blocks) (percent : UInt32) : Prop where
  wellFormed : ∀ block ∈ b.texts, block.block.WellFormed
  first_percent : ∀ block ∈ b.texts.head?, block.percent = percent
  texts_ne_nil : ∀ rest, b.remaining = .ok rest → b.texts ≠ []
  no_return : ∀ rest, b.remaining = .ok rest → '\r' ∉ rest

/-- What follows a block is the end of the text that the block is read of. -/
theorem no_return_of_find? (h : '\r' ∉ t)
    (hfind : Bracket.closing.find? t = some (body, letters, after)) :
    '\r' ∉ body ∧ '\r' ∉ trimStart after := by
  have hafter : trimStart after <:+ t :=
    (List.dropWhile_suffix _).trans (Bracket.isLocal_closing.suffix_of_find? hfind)
  exact ⟨fun hr => h ((Delimiter.prefix_of_find? hfind).subset hr), fun hr => h (hafter.subset hr)⟩

/-- A block that is read is well formed. -/
theorem wellFormed_block (percent : UInt32) (h : '\r' ∉ t)
    (hfind : Bracket.closing.find? t = some (body, letters, after)) :
    (BlockText.block ⟨percent, letters, readPatterns body⟩).WellFormed where
  patterns_ne_nil := Delimiter.split_ne_nil
  isPattern _ hp := isPattern_of_mem_readPatterns hp (no_return_of_find? h hfind).1
    (Bracket.not_hasClosing_body hfind)
  last_end := last_end_readPatterns body

/-- One block is read after the other, each from the end of a text without returns. -/
theorem readBlocks_sound (total : Nat) (percent : UInt32) (h : '\r' ∉ t) :
    (readBlocks total percent t).Sound percent := by
  fun_induction readBlocks total percent t with
  | case1 percent t hfind =>
    exact ⟨by simp, by simp, by simp, by simp⟩
  | case2 percent t body letters after hfind block sign hafter e hweight =>
    have hblock : block.block.WellFormed := wellFormed_block percent h hfind
    exact ⟨by simpa using hblock, by simp [block], by simp, by simp⟩
  | case3 percent t body letters after hfind block sign hafter next rest hweight more ih =>
    have hblock : block.block.WellFormed := wellFormed_block percent h hfind
    -- the next block is read behind the weight
    have hrest : '\r' ∉ rest := by
      intro hr
      have hsign : '\r' ∉ trimStart after := (no_return_of_find? h hfind).2
      rw [hafter] at hsign
      exact hsign (List.mem_cons_of_mem _ ((readWeight_suffix hweight).subset hr))
    have hmore : more.Sound next := ih hrest
    refine ⟨?_, by simp [block], fun _ _ => List.cons_ne_nil _ _, hmore.no_return⟩
    exact List.forall_mem_cons.2 ⟨hblock, hmore.wellFormed⟩
  | case4 percent t body letters after hfind block hlast =>
    have hblock : block.block.WellFormed := wellFormed_block percent h hfind
    have hrest : '\r' ∉ trimStart after := (no_return_of_find? h hfind).2
    exact ⟨by simpa using hblock, by simp [block], by simp, by simpa using hrest⟩

end Key

/-! ## Settings -/

/-- A text that takes up no more than a line. -/
structure IsOneLine (t : Text) : Prop where
  no_newline : '\n' ∉ t
  no_return : '\r' ∉ t

theorem IsOneLine.of_subset (h : IsOneLine t) (hsubset : value ⊆ t) : IsOneLine value :=
  ⟨fun hmem => h.no_newline (hsubset hmem), fun hmem => h.no_return (hsubset hmem)⟩

theorem IsOneLine.flatten {pieces : List Text} (h : ∀ piece ∈ pieces, IsOneLine piece) :
    IsOneLine pieces.flatten where
  no_newline hmem := by
    obtain ⟨piece, hpiece, hc⟩ := List.mem_flatten.1 hmem
    exact (h piece hpiece).no_newline hc
  no_return hmem := by
    obtain ⟨piece, hpiece, hc⟩ := List.mem_flatten.1 hmem
    exact (h piece hpiece).no_return hc

/-- Settings that are made of parts of lines, or else left as they were at the start. -/
structure Settings.WellFormed (s : Settings) : Prop where
  separator : s.separator = ['\n'] ∨ IsOneLine s.separator
  feedback : IsOneLine s.feedback

namespace Settings

/-- Progress over lines that stays within them. -/
structure Progress.WellFormed (p : Progress) : Prop where
  separator : p.settings.separator = ['\n'] ∨ IsOneLine p.settings.separator
  feedback : ∀ piece ∈ p.feedback, IsOneLine piece

theorem value_subset {name : Name} (h : readLine? line = some (name, value)) : value ⊆ line := by
  obtain ⟨name', -, hname⟩ := List.exists_of_findSome?_eq_some h
  obtain ⟨value', hafter, he⟩ := Option.map_eq_some_iff.1 hname
  cases he
  rw [after?_eq_some.1 hafter]
  exact List.subset_append_right _ _

/-- A line changes one setting at most, and gives it a part of itself. -/
theorem step_wellFormed {p : Progress} (hp : p.WellFormed) (hline : IsOneLine line) :
    (step p line).WellFormed := by
  unfold step
  cases hread : readLine? line with
  | none =>
    simp only
    split
    · exact ⟨hp.separator, List.forall_mem_cons.2 ⟨hline, hp.feedback⟩⟩
    · exact hp
  | some found =>
    obtain ⟨name, value⟩ := found
    have hvalue : IsOneLine value := hline.of_subset (value_subset hread)
    cases name with
    | separator => exact ⟨.inr hvalue, hp.feedback⟩
    | feedback => exact ⟨hp.separator, List.forall_mem_cons.2 ⟨hvalue, hp.feedback⟩⟩
    | comment => exact ⟨hp.separator, hp.feedback⟩
    | points => exact ⟨hp.separator, hp.feedback⟩
    | size => exact ⟨hp.separator, hp.feedback⟩

/-- Progress stays well formed over lines of any kind. -/
theorem foldl_step_wellFormed {p : Progress} (hp : p.WellFormed) {lines : List Text}
    (hlines : ∀ line ∈ lines, IsOneLine line) : (lines.foldl step p).WellFormed := by
  induction lines generalizing p with
  | nil => exact hp
  | cons line lines ih =>
    obtain ⟨hline, hrest⟩ := List.forall_mem_cons.1 hlines
    exact ih (step_wellFormed hp hline) hrest

theorem Progress.WellFormed.finish {p : Progress} (hp : p.WellFormed) : p.finish.WellFormed where
  separator := hp.separator
  feedback := IsOneLine.flatten fun piece hpiece => hp.feedback piece (List.mem_reverse.1 hpiece)

/-- Settings read of a text without returns. -/
theorem wellFormed_read (h : '\r' ∉ region) : (read region).WellFormed := by
  have hstart : Progress.WellFormed {} := ⟨.inl rfl, List.forall_mem_nil _⟩
  refine (foldl_step_wellFormed hstart fun line hline => ?_).finish
  obtain ⟨hpart, hnewline⟩ := line_of_mem_lines hline
  exact ⟨hnewline, fun hr => h (hpart.subset hr)⟩

end Settings

/-! ## Keys -/

/-- A key that some text can be read as. -/
structure Key.WellFormed (k : Key) : Prop where
  blocks_ne_nil : k.blocks ≠ []
  first_percent : ∀ b ∈ k.blocks.head?, b.percent = 100
  blocks : ∀ b ∈ k.blocks, b.WellFormed
  settings : k.settings.WellFormed

namespace Key

/-- Every key that is read is well formed. -/
theorem wellFormed_of_read {text : Text} {key : Key} (h : read text = .ok key) :
    key.WellFormed := by
  have hreturn : '\r' ∉ withoutReturns text := by simp [withoutReturns]
  have hsound : (blocksOf text).Sound firstPercent := readBlocks_sound _ _ hreturn
  unfold read at h
  simp only at h
  split at h
  · cases h
  · next rest hrest =>
    cases h
    have hsettings : '\r' ∉ trim rest := fun hr =>
      hsound.no_return rest hrest ((infix_trim rest).subset hr)
    refine ⟨?_, ?_, ?_, Settings.wellFormed_read hsettings⟩
    · simpa using hsound.texts_ne_nil rest hrest
    · intro b hb
      rw [List.head?_map] at hb
      obtain ⟨block, hblock, rfl⟩ := Option.map_eq_some_iff.1 hb
      exact hsound.first_percent block hblock
    · intro b hb
      obtain ⟨block, hblock, rfl⟩ := List.mem_map.1 hb
      exact hsound.wellFormed block hblock

/-- A text that is no key has no block to score against. -/
theorem scoreAt_of_read_eq_error {text : Text} {e : KeyError} (h : read text = .error e)
    (index : Nat) (answer : Text) :
    readOrBlank text = blank ∧ Scoring.scoreAt (readOrBlank text) index answer = .nothing := by
  have hblank : readOrBlank text = blank := by
    unfold readOrBlank
    rw [h]
  rw [hblank]
  exact ⟨rfl, rfl⟩

/-- Every text is either read as a key that is well formed, or else as the blank one, whose score
is no point whatever the answer. -/
theorem wellFormed_or_blank (text : Text) :
    (∀ key, read text = .ok key → key.WellFormed) ∧
      ∀ e, read text = .error e → readOrBlank text = ⟨[], {}⟩ ∧
        ∀ index answer, (Scoring.scoreAt (readOrBlank text) index answer).fraction = 0.0 := by
  refine ⟨fun key h => wellFormed_of_read h, fun e h => ⟨?_, fun index answer => ?_⟩⟩
  · exact (scoreAt_of_read_eq_error h 0 []).1
  · rw [(scoreAt_of_read_eq_error h index answer).2]
    decide

/-- Brackets that overlap and padding behind them do not get into a pattern; a text that breaks off
after a percent sign is no key. -/
theorem wellFormed_or_blank_sample :
    let text := "[[a]]] [[[b ]]\r/O/%7 c\t]]//separator=;\r\nx".toList
    (∃ key, read text = .ok key ∧ key.WellFormed) ∧ readOrBlank "[[a]]/O/%".toList = ⟨[], {}⟩ := by
  intro text
  constructor
  · have hok : (read text).isOk = true := by decide +kernel
    cases h : read text with
    | ok key => exact ⟨key, rfl, (wellFormed_or_blank text).1 key h⟩
    | error e =>
      rw [h] at hok
      cases hok
  · have hrest : (blocksOf "[[a]]/O/%".toList).remaining = .error (.missingWeight 8) := by
      decide +kernel
    have herror : read "[[a]]/O/%".toList = .error (.missingWeight 8) := by
      unfold read
      simp only [hrest]
    exact ((wellFormed_or_blank _).2 _ herror).1

end Key

end AnswerKey
