import AnswerKey.Proofs.Key.Reader
import AnswerKey.Proofs.Options

/-!
# Writing keys

A key can be written in many ways: gaps may stand between brackets, padding behind blocks, and
carriage returns anywhere.  `read_written` says that however it is written, reading gives the key back.
A pattern may hold any brackets but an end of a block and a boundary between patterns.
-/

namespace AnswerKey.Key

open Text AnswerKey.Bracket

/-! ## Patterns -/

/-- A pattern as it is written, with the gap behind its closing brackets. -/
structure WrittenPattern where
  text : Text
  gap : Text
  no_return : '\r' ∉ text
  no_closing : ¬ HasClosing text
  no_boundary : ¬ HasBoundary text
  isGap_gap : ∀ c ∈ gap, isGap c = true

/-- Some patterns as they stand between the first opening brackets and the last closing ones. -/
def inner : List WrittenPattern → WrittenPattern → Text
  | [], last => last.text
  | p :: earlier, last => p.text ++ ']' :: ']' :: (p.gap ++ '[' :: '[' :: inner earlier last)

variable {earlier : List WrittenPattern} {last : WrittenPattern} {letters : Text}

/-- The patterns end at the closing that is written behind them, and not at one of their own
brackets. -/
theorem find?_closing_inner (earlier : List WrittenPattern) (last : WrittenPattern)
    (hletters : ∀ c ∈ letters, c.isAlpha = true) (t : Text) :
    closing.find? (inner earlier last ++ ']' :: ']' :: (last.gap ++ '/' :: (letters ++ '/' :: t))) =
      some (inner earlier last, letters, t) := by
  induction earlier with
  | nil => exact find?_closing_append last.no_closing last.isGap_gap hletters
  | cons p earlier ih =>
    simp only [inner, List.append_assoc, List.cons_append]
    rw [find?_closing_next p.no_closing p.isGap_gap, ih, Option.map_some]
    simp [Delimiter.behind]

/-- The patterns are divided where they were put together. -/
theorem split_boundary_inner (earlier : List WrittenPattern) (last : WrittenPattern) :
    boundary.split (inner earlier last) = (earlier ++ [last]).map WrittenPattern.text := by
  induction earlier with
  | nil => exact Delimiter.split_of_find?_eq_none (find?_boundary_eq_none_iff.2 last.no_boundary)
  | cons p earlier ih =>
    rw [inner, Delimiter.split_of_find?_eq_some
      (find?_boundary_append p.no_boundary p.isGap_gap), ih]
    rfl

theorem return_not_mem_inner (earlier : List WrittenPattern) (last : WrittenPattern) :
    '\r' ∉ inner earlier last := by
  induction earlier with
  | nil => exact last.no_return
  | cons p earlier ih =>
    have hgap : '\r' ∉ p.gap := fun h => absurd (p.isGap_gap _ h) (by decide)
    simp [inner, p.no_return, hgap, ih]

/-- What stands before the last closing brackets ends as the last pattern does, or with a bracket. -/
theorem isPadding_getLast?_inner (hlast : ∀ c ∈ last.text.getLast?, isPadding c = false) :
    ∀ c ∈ ('[' :: inner earlier last).getLast?, isPadding c = false := by
  induction earlier with
  | nil =>
    intro c hc
    rw [inner, List.getLast?_cons] at hc
    cases hend : last.text.getLast? with
    | none =>
      rw [hend] at hc
      cases hc
      rfl
    | some d =>
      rw [hend] at hc
      cases hc
      exact hlast d hend
  | cons p earlier ih =>
    have hsplit : '[' :: inner (p :: earlier) last =
        ('[' :: (p.text ++ ']' :: ']' :: (p.gap ++ ['[']))) ++ '[' :: inner earlier last := by
      simp [inner]
    rw [hsplit, getLast?_append_of_ne_nil (List.cons_ne_nil _ _)]
    exact ih

/-- The patterns of a block are read back. -/
theorem readPatterns_inner (hlast : ∀ c ∈ last.text.getLast?, isPadding c = false) :
    readPatterns ('[' :: '[' :: inner earlier last) =
      (earlier ++ [last]).map WrittenPattern.text := by
  have htrim : trim ('[' :: '[' :: inner earlier last) = '[' :: '[' :: inner earlier last := by
    have hend : ∀ c ∈ ('[' :: '[' :: inner earlier last).getLast?, isPadding c = false := by
      rw [List.getLast?_cons_cons]
      exact isPadding_getLast?_inner hlast
    have h := trim_append (c := '[') rfl hend (List.forall_mem_nil _)
    rwa [List.append_nil] at h
  unfold readPatterns
  rw [htrim]
  exact split_boundary_inner earlier last

/-! ## Blocks -/

/-- A block as it is written: its patterns, and the padding behind it. -/
structure WrittenBlock where
  percent : UInt32
  earlier : List WrittenPattern
  last : WrittenPattern
  options : Options
  padding : Text
  last_end : ∀ c ∈ last.text.getLast?, isPadding c = false
  isPadding_padding : ∀ c ∈ padding, isPadding c = true

namespace WrittenBlock

/-- The block that is written. -/
def block (b : WrittenBlock) : Block :=
  ⟨b.percent, (b.earlier ++ [b.last]).map WrittenPattern.text, b.options⟩

/-- The text of a block up to the padding behind it. -/
def front (b : WrittenBlock) : Text :=
  '[' :: '[' :: (inner b.earlier b.last ++
    ']' :: ']' :: (b.last.gap ++ '/' :: (b.options.letters ++ ['/'])))

/-- The text of a block. -/
def text (b : WrittenBlock) : Text :=
  b.front ++ b.padding

/-- The block as it is read before its letters are. -/
def blockText (b : WrittenBlock) : BlockText :=
  ⟨b.percent, b.options.letters, (b.earlier ++ [b.last]).map WrittenPattern.text⟩

/-- What is read of a block is the block that was written. -/
theorem block_blockText (b : WrittenBlock) : b.blockText.block = b.block := by
  unfold blockText BlockText.block block
  rw [Options.ofLetters_letters]

/-- A written block ends at its own closing. -/
theorem find?_closing_text (b : WrittenBlock) (t : Text) :
    closing.find? (b.text ++ t) =
      some ('[' :: '[' :: inner b.earlier b.last, b.options.letters, b.padding ++ t) := by
  have hletters : ∀ c ∈ b.options.letters, c.isAlpha = true :=
    fun c => Options.isAlpha_of_mem_letters
  have hinner := find?_closing_inner b.earlier b.last hletters (b.padding ++ t)
  have htext : b.text ++ t = ['[', '['] ++ (inner b.earlier b.last ++
      ']' :: ']' :: (b.last.gap ++ '/' :: (b.options.letters ++ '/' :: (b.padding ++ t)))) := by
    simp [text, front]
  rw [htext, closesFirst_closing.find?_append_of_not_mem (by decide), hinner]
  rfl

theorem text_cons (b : WrittenBlock) : ∃ t, b.text = '[' :: t :=
  ⟨_, rfl⟩

/-- The block with the carriage returns taken out of its padding. -/
def clean (b : WrittenBlock) : WrittenBlock :=
  { b with
    padding := withoutReturns b.padding
    isPadding_padding := fun c hc => b.isPadding_padding c (mem_of_mem_withoutReturns hc) }

/-- Without its returns a block is written as its clean form. -/
theorem text_clean (b : WrittenBlock) : b.clean.text = withoutReturns b.text := by
  have hletters : '\r' ∉ b.options.letters :=
    fun h => absurd (Options.isAlpha_of_mem_letters h) (by decide)
  have hgap : '\r' ∉ b.last.gap := fun h => absurd (b.last.isGap_gap _ h) (by decide)
  have hfront : '\r' ∉ b.front := by
    simp [front, return_not_mem_inner, hletters, hgap]
  show b.front ++ withoutReturns b.padding = withoutReturns (b.front ++ b.padding)
  rw [withoutReturns_append, withoutReturns_of_not_mem hfront]

end WrittenBlock

/-- Some blocks behind the first one, and then the rest of a key. -/
def laterText : List WrittenBlock → Text → Text
  | [], t => t
  | b :: later, t => '%' :: (Number.digitsOf b.percent.toNat ++ (b.text ++ laterText later t))

theorem laterText_clean (later : List WrittenBlock) (t : Text) :
    laterText (later.map WrittenBlock.clean) (withoutReturns t) =
      withoutReturns (laterText later t) := by
  induction later with
  | nil => rfl
  | cons b later ih =>
    have hdigits : '\r' ∉ Number.digitsOf b.percent.toNat :=
      fun h => absurd (Number.isDigit_of_mem_digitsOf h) (by decide)
    rw [laterText, withoutReturns_cons (by decide), withoutReturns_append,
      withoutReturns_of_not_mem hdigits, withoutReturns_append, ← b.text_clean, ← ih]
    rfl

/-- The blocks of a key are read one after the other. -/
theorem readBlocks_text (total : Nat) (b : WrittenBlock) (later : List WrittenBlock) {c : Char}
    {t : Text} (hc : isPadding c = false) (hpercent : c ≠ '%') :
    readBlocks total b.percent (b.text ++ laterText later (c :: t)) =
      ⟨(b :: later).map WrittenBlock.blockText, .ok (c :: t)⟩ := by
  -- what follows the padding decides whether this is the last block: a percent sign or not
  induction later generalizing b with
  | nil =>
    have hafter : trimStart (b.padding ++ c :: t) = c :: t := by
      rw [trimStart_append b.isPadding_padding, trimStart_cons hc]
    rw [laterText, readBlocks_of_last (b.find?_closing_text (c :: t)) hafter
      fun sign he => hpercent (List.cons.inj he).1, readPatterns_inner b.last_end]
    rfl
  | cons next later ih =>
    have hfind := b.find?_closing_text (laterText (next :: later) (c :: t))
    have hafter : trimStart (b.padding ++ laterText (next :: later) (c :: t)) =
        laterText (next :: later) (c :: t) := by
      rw [trimStart_append b.isPadding_padding, laterText, trimStart_cons rfl]
    have hweight : ∀ offset, readWeight offset (Number.digitsOf next.percent.toNat ++
        (next.text ++ laterText later (c :: t))) =
          .ok (next.percent, next.text ++ laterText later (c :: t)) := by
      intro offset
      apply readWeight_digitsOf
      intro d hd
      obtain ⟨rest, hrest⟩ := next.text_cons
      rw [hrest] at hd
      cases hd
      rfl
    rw [readBlocks_of_more hfind hafter hweight, ih, readPatterns_inner b.last_end]
    rfl

/-! ## Settings -/

/-- A line that begins with a name has it. -/
theorem readLine?_lead (name : Settings.Name) (value : Text) :
    Settings.readLine? (name.lead ++ value) = some (name, value) := by
  cases name <;> rfl

/-- The settings of a key as they are written, with the padding at the end. -/
structure WrittenSettings where
  separator : Text
  feedback : Text
  size : Int64
  ending : Text
  separator_line : separator = ['\n'] ∨ '\n' ∉ separator ∧ '\r' ∉ separator
  feedback_line : '\n' ∉ feedback ∧ '\r' ∉ feedback
  isPadding_ending : ∀ c ∈ ending, isPadding c = true

namespace WrittenSettings

/-- The settings that are written. -/
def settings (s : WrittenSettings) : Settings :=
  { separator := s.separator, size := s.size, feedback := s.feedback }

/-- The lines of the settings but for the first one. -/
def lastLines (s : WrittenSettings) : Text :=
  Settings.Name.feedback.lead ++ s.feedback ++
    '\n' :: (Settings.Name.size.lead ++ Number.integerText s.size.toInt)

/-- The lines of the settings; a newline that divides answers is not written. -/
def front (s : WrittenSettings) : Text :=
  if s.separator = ['\n'] then s.lastLines
  else Settings.Name.separator.lead ++ s.separator ++ '\n' :: s.lastLines

/-- The text of the settings. -/
def text (s : WrittenSettings) : Text :=
  s.front ++ s.ending

/-- The settings begin with a name, which is neither padding nor a sign for a weight. -/
theorem front_cons (s : WrittenSettings) :
    ∃ c t, s.front = c :: t ∧ isPadding c = false ∧ c ≠ '%' := by
  unfold front
  split
  · exact ⟨'f', _, rfl, rfl, by decide⟩
  · exact ⟨'s', _, rfl, rfl, by decide⟩

theorem return_not_mem_front (s : WrittenSettings) : '\r' ∉ s.front := by
  have hlead : ∀ name : Settings.Name, '\r' ∉ name.lead := by
    intro name
    cases name <;> decide
  have hsize : '\r' ∉ Number.integerText s.size.toInt :=
    Number.not_mem_integerText (by decide) (by decide)
  have hlines : '\r' ∉ s.lastLines := by
    simp [lastLines, hlead, s.feedback_line.2, hsize]
  unfold front
  split
  · exact hlines
  · next hno =>
    have hseparator := (s.separator_line.resolve_left hno).2
    simp [hlead, hseparator, hlines]

/-- Settings end with the digits of the size. -/
theorem isPadding_getLast?_front (s : WrittenSettings) :
    ∀ c ∈ s.front.getLast?, isPadding c = false := by
  have hend : ∃ t, s.front = t ++ Number.integerText s.size.toInt := by
    have hlast : s.lastLines = (Settings.Name.feedback.lead ++ s.feedback ++
        '\n' :: Settings.Name.size.lead) ++ Number.integerText s.size.toInt := by
      simp [lastLines]
    unfold front
    split
    · exact ⟨_, hlast⟩
    · exact ⟨Settings.Name.separator.lead ++ s.separator ++ '\n' ::
        (Settings.Name.feedback.lead ++ s.feedback ++ '\n' :: Settings.Name.size.lead),
        by simp [hlast]⟩
  obtain ⟨t, ht⟩ := hend
  intro c hc
  rw [ht, getLast?_append_of_ne_nil (Number.integerText_ne_nil _)] at hc
  exact Number.not_isPadding_of_isDigit (Number.isDigit_of_mem_getLast?_integerText hc)

theorem trim_text (s : WrittenSettings) : trim s.text = s.front := by
  obtain ⟨c, t, hfront, hc, -⟩ := s.front_cons
  have hlast := s.isPadding_getLast?_front
  rw [hfront] at hlast
  rw [text, hfront, trim_append hc hlast s.isPadding_ending]

theorem newline_not_mem_line (name : Settings.Name) {value : Text} (h : '\n' ∉ value) :
    '\n' ∉ name.lead ++ value := by
  have hlead : '\n' ∉ name.lead := by cases name <;> decide
  rw [List.mem_append]
  exact fun hmem => hmem.elim hlead h

theorem lines_lastLines (s : WrittenSettings) :
    lines s.lastLines = [Settings.Name.feedback.lead ++ s.feedback,
      Settings.Name.size.lead ++ Number.integerText s.size.toInt] := by
  have hsize : '\n' ∉ Number.integerText s.size.toInt :=
    Number.not_mem_integerText (by decide) (by decide)
  rw [lastLines, lines_append (newline_not_mem_line .feedback s.feedback_line.1),
    lines_of_no_newline (newline_not_mem_line .size hsize)]

theorem lines_front (s : WrittenSettings) :
    lines s.front = (if s.separator = ['\n'] then [] else
      [Settings.Name.separator.lead ++ s.separator]) ++ lines s.lastLines := by
  unfold front
  split
  · rfl
  · next hno =>
    have hseparator := (s.separator_line.resolve_left hno).1
    rw [lines_append (newline_not_mem_line .separator hseparator)]
    rfl

/-- The settings are read back, line by line. -/
theorem read_front (s : WrittenSettings) : Settings.read s.front = s.settings := by
  have hsize : Settings.readSize (Number.integerText s.size.toInt) = s.size := by
    unfold Settings.readSize
    rw [Number.leadingInteger?_integerText]
    exact Number.saturate_toInt s.size
  have hlast : ∀ p, (lines s.lastLines).foldl Settings.step p =
      { settings := { p.settings with size := s.size }, feedback := s.feedback :: p.feedback,
        inFeedback := false } := by
    intro p
    rw [s.lines_lastLines, List.foldl_cons, List.foldl_cons, Settings.step, Settings.step,
      readLine?_lead, readLine?_lead]
    simp only [hsize, List.foldl_nil]
  unfold Settings.read
  rw [lines_front, List.foldl_append, hlast]
  split
  · next hseparator =>
    simp [Settings.Progress.finish, settings, hseparator]
  · rw [List.foldl_cons, List.foldl_nil, Settings.step, readLine?_lead]
    simp [Settings.Progress.finish, settings]

/-- The settings with the carriage returns taken out of the padding behind them. -/
def clean (s : WrittenSettings) : WrittenSettings :=
  { s with
    ending := withoutReturns s.ending
    isPadding_ending := fun c hc => s.isPadding_ending c (mem_of_mem_withoutReturns hc) }

/-- Without their returns settings are written as their clean form. -/
theorem text_clean (s : WrittenSettings) : s.clean.text = withoutReturns s.text := by
  show s.front ++ withoutReturns s.ending = withoutReturns (s.front ++ s.ending)
  rw [withoutReturns_append, withoutReturns_of_not_mem s.return_not_mem_front]

end WrittenSettings

/-! ## Keys -/

/-- A key as it is written.  The weight of its first block is not. -/
structure WrittenKey where
  first : WrittenBlock
  later : List WrittenBlock
  settings : WrittenSettings
  first_percent : first.percent = firstPercent

namespace WrittenKey

/-- The key that is written. -/
def key (k : WrittenKey) : Key :=
  ⟨(k.first :: k.later).map WrittenBlock.block, k.settings.settings⟩

/-- The text of a key. -/
def text (k : WrittenKey) : Text :=
  k.first.text ++ laterText k.later k.settings.text

/-- The key with the carriage returns taken out of all padding. -/
def clean (k : WrittenKey) : WrittenKey :=
  { k with
    first := k.first.clean
    later := k.later.map WrittenBlock.clean
    settings := k.settings.clean }

/-- Without its returns a key is written as its clean form. -/
theorem text_clean (k : WrittenKey) : k.clean.text = withoutReturns k.text := by
  show k.first.clean.text ++ laterText (k.later.map WrittenBlock.clean) k.settings.clean.text = _
  rw [text, withoutReturns_append, k.first.text_clean, k.settings.text_clean, laterText_clean]

/-- Carriage returns have no part in the key. -/
theorem key_clean (k : WrittenKey) : k.clean.key = k.key := by
  show Key.mk ((k.first.clean :: k.later.map WrittenBlock.clean).map WrittenBlock.block) _ = _
  rw [List.map_cons, List.map_map]
  rfl

/-- A key is read back from its text without carriage returns. -/
theorem read_withoutReturns (k : WrittenKey) (h : withoutReturns k.text = k.text) :
    read k.text = .ok k.key := by
  obtain ⟨c, t, hfront, hc, hpercent⟩ := k.settings.front_cons
  have hsettings : k.settings.text = c :: (t ++ k.settings.ending) := by
    rw [WrittenSettings.text, hfront, List.cons_append]
  have hblocks : blocksOf k.text =
      ⟨(k.first :: k.later).map WrittenBlock.blockText, .ok k.settings.text⟩ := by
    unfold blocksOf
    rw [h, ← k.first_percent]
    simp only
    generalize byteSize k.text = total
    rw [text, hsettings]
    exact readBlocks_text total k.first k.later hc hpercent
  have hblock : BlockText.block ∘ WrittenBlock.blockText = WrittenBlock.block :=
    funext WrittenBlock.block_blockText
  unfold read
  rw [hblocks]
  simp only
  rw [k.settings.trim_text, k.settings.read_front, List.map_map, hblock]
  rfl

end WrittenKey

/-- However a key is written, and wherever carriage returns are put into its text, it is what is
read. -/
theorem read_written (k : WrittenKey) (t : Text) (h : withoutReturns t = withoutReturns k.text) :
    read t = .ok k.key := by
  -- a text that has no returns is that of a key whose padding has none
  have hclean : withoutReturns k.clean.text = k.clean.text := by
    rw [k.text_clean, withoutReturns, withoutReturns, List.filter_filter]
    simp
  have ht : withoutReturns t = withoutReturns k.clean.text := by
    rw [h, hclean, k.text_clean]
  rw [read_congr ht, k.clean.read_withoutReturns hclean, k.key_clean]

/-- A pattern of plain brackets and signs, with a space behind it. -/
def bracketPattern : WrittenPattern where
  text := "[%/a]] ]]]".toList
  gap := [' ']
  no_return := by decide
  no_closing := by decide
  no_boundary := by decide
  isGap_gap := List.all_eq_true.1 rfl

/-- A key of two blocks whose patterns begin and end with brackets, the second one of the greatest
weight there is. -/
def bracketKey : WrittenKey where
  first :=
    { percent := 100, earlier := [bracketPattern], last := bracketPattern
      options := { anyOrder := true, trimAnswer := false }, padding := "\x0b ".toList
      last_end := fun _ hc => Option.some.inj hc ▸ rfl
      isPadding_padding := List.all_eq_true.1 rfl }
  later :=
    [{ percent := 4294967295, earlier := [], last := bracketPattern
       options := { ignoreCase := true }, padding := "\r\n".toList
       last_end := fun _ hc => Option.some.inj hc ▸ rfl
       isPadding_padding := List.all_eq_true.1 rfl }]
  settings :=
    { separator := ";".toList, feedback := "size=3 ".toList, size := Int64.minValue
      ending := "\n".toList
      separator_line := by decide
      feedback_line := by decide
      isPadding_ending := List.all_eq_true.1 rfl }
  first_percent := rfl

/-- Brackets in patterns are not taken for those around them, nor is a percent sign for a weight. -/
theorem read_bracketKey :
    read ("[[[%/a]] ]]]]] [[[%/a]]\r ]]]]] /Ot/\x0b %4294967295[[[%/a]] ]]]]] /I/\r\n" ++
      "separator=;\nfeedback=size=3 \nsize=-9223372036854775808\n").toList =
      .ok bracketKey.key :=
  read_written bracketKey _ (by decide +kernel)

end AnswerKey.Key
