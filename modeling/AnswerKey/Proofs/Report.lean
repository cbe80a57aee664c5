import AnswerKey.Report.Grades
import AnswerKey.Report.Listing
import AnswerKey.Report.Record

/-!
# Colour

A report is written by print calls, each of which sends texts and colour commands.  With colour the
report is what all of them write; without, it is what the texts among them write
(`IsDecorated`).  Every style that is switched on is switched off again before the next one is, and
before the call ends.  What is written in the end is told byte by byte (`gradeText`, `summaryText`,
`listingText`).
-/

namespace AnswerKey.Report

variable {colour : Bool} {style : Style} {t : String} {c : Command} {cs more : List Command}

/-! ## Commands -/

/-- What some commands write, one after the other. -/
def written (cs : List Command) : String :=
  String.join (cs.map Command.written)

theorem written_cons (c : Command) (cs : List Command) :
    written (c :: cs) = c.written ++ written cs := by
  simp [written, String.join_cons]

/-- With colour everything is written. -/
theorem render_true (cs : List Command) : render true cs = written cs := rfl

/-- Without colour only the texts are written. -/
theorem render_false (cs : List Command) : render false cs = written (cs.filter Command.isText) := by
  induction cs with
  | nil => rfl
  | cons c cs ih =>
    rw [render_cons, ih]
    cases c with
    | text t =>
      rw [List.filter_cons_of_pos rfl, written_cons]
      rfl
    | switchOn style =>
      rw [List.filter_cons_of_neg Bool.false_ne_true]
      exact String.empty_append
    | switchOff =>
      rw [List.filter_cons_of_neg Bool.false_ne_true]
      exact String.empty_append

/-- Where there are only texts, colour makes no difference. -/
theorem render_eq_of_isText (h : ∀ c ∈ cs, c.isText = true) : render true cs = render false cs := by
  rw [render_true, render_false, List.filter_eq_self.2 h]

/-- Calls one after the other print their outputs one after the other. -/
theorem render_flatten (colour : Bool) (calls : List (List Command)) :
    render colour calls.flatten = String.join (calls.map (render colour)) := by
  induction calls with
  | nil => rfl
  | cons call calls ih =>
    rw [List.flatten_cons, render_append, ih, List.map_cons, String.join_cons]

/-! ## Styles are switched off -/

/-- Every style that is switched on is switched off before another one is switched on, and before
the end. -/
def IsSettled (cs : List Command) : Prop :=
  ∀ before style after, cs = before ++ .switchOn style :: after →
    ∃ shown rest, after = shown ++ .switchOff :: rest ∧ ∀ c ∈ shown, c.isText = true

/-- Where no style is switched on, none has to be switched off. -/
theorem isSettled_of_no_style (h : ∀ style, .switchOn style ∉ cs) : IsSettled cs := by
  intro before style after he
  exact (h style (by simp [he])).elim

theorem isSettled_of_isText (h : ∀ c ∈ cs, c.isText = true) : IsSettled cs := by
  apply isSettled_of_no_style
  intro style hmem
  cases h _ hmem

/-- Calls that switch their own styles off can follow each other. -/
theorem IsSettled.append (hcs : IsSettled cs) (hmore : IsSettled more) :
    IsSettled (cs ++ more) := by
  intro before style after he
  rcases List.append_eq_append_iff.1 he with ⟨between, -, hbetween⟩ | ⟨between, hbetween, hafter⟩
  -- the style is switched on among the later commands
  · exact hmore between style after hbetween
  · rcases List.cons_eq_append_iff.1 hafter with ⟨-, hafter⟩ | ⟨inner, rfl, rfl⟩
    · exact hmore [] style after hafter
    -- it is switched on among the earlier ones, and so switched off among them
    · obtain ⟨shown, rest, rfl, hshown⟩ := hcs before style inner hbetween
      exact ⟨shown, rest ++ more, by simp, hshown⟩

/-- A text changes no style. -/
theorem IsSettled.text (hcs : IsSettled cs) : IsSettled (.text t :: cs) := by
  have htext : IsSettled [.text t] := isSettled_of_no_style (by simp)
  exact htext.append hcs

/-- A style is on for one text. -/
theorem IsSettled.styled (hcs : IsSettled cs) :
    IsSettled (.switchOn style :: .text t :: .switchOff :: cs) := by
  have hstyled : IsSettled [.switchOn style, .text t, .switchOff] := by
    intro before other after he
    rcases List.cons_eq_append_iff.1 he with ⟨-, he⟩ | ⟨inner, -, he⟩
    · cases he
      exact ⟨[.text t], [], rfl, by simp [Command.isText]⟩
    · -- behind the style itself nothing is switched on
      have hmem : Command.switchOn other ∈ [.text t, .switchOff] := by simp [he]
      simp at hmem
  exact hstyled.append hcs

theorem isSettled_nil : IsSettled [] :=
  isSettled_of_isText (List.forall_mem_nil _)

/-- A call that switches its styles off can be made again and again. -/
theorem isSettled_flatMap {α : Type} {call : α → List Command} (h : ∀ a, IsSettled (call a))
    (as : List α) : IsSettled (as.flatMap call) := by
  induction as with
  | nil => exact isSettled_nil
  | cons a as ih =>
    rw [List.flatMap_cons]
    exact (h a).append ih

/-! ## The print calls -/

/-- The mark is shown in its style, and the points dimly. -/
theorem isSettled_gradeLine (g : Grade) : IsSettled (gradeLine g) :=
  isSettled_nil.styled.text.styled

/-- A count that is shown is shown in its own style only. -/
theorem isSettled_tally (style : Style) (n : Nat) (what : String) :
    IsSettled (tally style n what) := by
  unfold tally
  split
  · exact isSettled_nil
  · exact isSettled_nil.styled.text

theorem isSettled_feedback (key : Key) : IsSettled (feedback key) := by
  unfold feedback
  split
  · exact isSettled_nil
  · exact isSettled_nil.text.styled

/-- Whichever counts are left out of a summary, no style stays on. -/
theorem isSettled_summary (grader : Grader) (grades : List Grade) :
    IsSettled (summary grader grades) := by
  have hheading : IsSettled
      [.text "\n", .switchOn .bold, .text (heading grader grades), .switchOff,
       .switchOn .green, .text (" " ++ toString (correctCount grades) ++ " correct"), .switchOff] :=
    isSettled_nil.styled.styled.text
  apply IsSettled.append _ (isSettled_feedback grader.key)
  apply IsSettled.append _ isSettled_nil.text
  apply IsSettled.append _ (isSettled_tally .red _ _)
  exact hheading.append (isSettled_tally .yellow _ _)

theorem isSettled_record (key : Key) (g : Grade) : IsSettled (record key g) :=
  isSettled_nil.text

theorem isSettled_listLetters (o : Options) : IsSettled (listLetters o) := by
  unfold listLetters
  split
  · exact isSettled_nil
  · exact isSettled_nil.styled

/-- The expressions of a block are shown dimly one by one. -/
theorem isSettled_listBlock (number : Nat) (b : Block) : IsSettled (listBlock number b) := by
  have hpatterns : IsSettled (b.patterns.flatMap (listPattern b.options)) :=
    isSettled_flatMap (fun p => isSettled_nil.styled.text) b.patterns
  apply IsSettled.append _ hpatterns
  apply IsSettled.append _ isSettled_nil.text
  exact isSettled_nil.styled.append (isSettled_listLetters b.options)

theorem isSettled_listSettings (s : Settings) : IsSettled (listSettings s) := by
  apply IsSettled.append
  · exact isSettled_nil.text.text.text
  · split
    · exact isSettled_nil
    · exact isSettled_nil.text

/-- No block of a listing leaves a style on for the next one. -/
theorem isSettled_listing (key : Key) : IsSettled (listing key) := by
  apply IsSettled.append _ (isSettled_listSettings key.settings)
  rw [List.mapIdx_eq_zipIdx_map, ← List.flatMap_def]
  exact isSettled_flatMap (fun x => isSettled_listBlock _ _) _

/-! ## What is written -/

/-- A text in a style, which is switched on before it and off behind it where colour is shown. -/
def painted (colour : Bool) (style : Style) (t : String) : String :=
  if colour then reset ++ sequence style ++ t ++ reset else t

theorem render_text (colour : Bool) (t : String) (cs : List Command) :
    render colour (.text t :: cs) = t ++ render colour cs := by
  rw [render_cons, Command.render, Command.isText, Bool.or_true, if_pos rfl]
  rfl

/-- A text in a style is printed between the two sequences, or without them. -/
theorem render_styled (colour : Bool) (style : Style) (t : String) (cs : List Command) :
    render colour (.switchOn style :: .text t :: .switchOff :: cs) =
      painted colour style t ++ render colour cs := by
  rw [render_cons, render_text, render_cons]
  cases colour with
  | true => simp [painted, Command.render, Command.written, String.append_assoc]
  | false => simp [painted, Command.render, Command.isText]

/-- The line for a grade as it is written. -/
def gradeText (colour : Bool) (g : Grade) : String :=
  painted colour (markStyle g.verdict) (mark g.verdict) ++ " " ++ String.ofList g.name ++ " " ++
    Number.twoPlaces g.fraction ++
    painted colour .dim (" (" ++ Number.twoPlaces g.points ++ " points)\n")

/-- The summary of `answers` grades as it is written, of which these are right, in between and
wrong. -/
def summaryText (colour : Bool) (grader : Grader) (answers correct incomplete wrong : Nat) :
    String :=
  "\n" ++
    painted colour .bold (toString answers ++ " answer" ++ (if answers = 1 then "" else "s") ++
      " graded against block " ++ toString (grader.index + 1) ++
      " (" ++ toString grader.block.percent.toNat ++ "%):") ++
    painted colour .green (" " ++ toString correct ++ " correct") ++
    (if 0 < incomplete then
      "," ++ painted colour .yellow (" " ++ toString incomplete ++ " partial") else "") ++
    (if 0 < wrong then "," ++ painted colour .red (" " ++ toString wrong ++ " wrong") else "") ++
    "\n" ++
    (if grader.key.settings.feedback = [] then "" else
      painted colour .dim "Feedback: " ++ String.ofList grader.key.settings.feedback ++ "\n")

/-- A block of a listing as it is written. -/
def blockText (colour : Bool) (number : Nat) (b : Block) : String :=
  painted colour .bold ("block " ++ toString number ++ " (" ++ toString b.percent.toNat ++ "%)") ++
    (if b.options.letters = [] then "" else
      painted colour .dim (" /" ++ String.ofList b.options.letters ++ "/")) ++
    (if b.options.anyOrder then " any order" else "") ++ "\n" ++
    String.join (b.patterns.map fun p => "  [[" ++ String.ofList p ++ "]]\n" ++
      painted colour .dim ("    " ++ String.ofList (Pattern.expand b.options p) ++ "\n"))

/-- The listing of a key as it is written. -/
def listingText (colour : Bool) (key : Key) : String :=
  String.join (key.blocks.mapIdx fun i b => blockText colour (i + 1) b) ++
    "separator: " ++
    String.ofList (Text.Quoted.quote Text.Quoted.visible key.settings.separator) ++ "\n" ++
    "points: " ++ Number.plain key.settings.points ++ "\n" ++
    "size: " ++ toString key.settings.size.toInt ++ "\n" ++
    (if key.settings.feedback = [] then "" else
      "feedback: " ++ String.ofList key.settings.feedback ++ "\n")

/-- The line for a grade has its mark, its name, its fraction and its points. -/
theorem render_gradeLine (colour : Bool) (g : Grade) :
    render colour (gradeLine g) = gradeText colour g := by
  unfold gradeLine gradeText
  rw [render_styled, render_text, render_styled, render_nil]
  simp only [String.append_assoc, String.append_empty]

/-- A count is printed behind a comma, unless it is zero. -/
theorem render_tally (colour : Bool) (style : Style) (n : Nat) (what : String) :
    render colour (tally style n what) =
      if 0 < n then "," ++ painted colour style (" " ++ toString n ++ " " ++ what) else "" := by
  unfold tally
  by_cases hn : n = 0
  · rw [if_pos hn, if_neg (by omega), render_nil]
  · rw [if_neg hn, if_pos (by omega), render_text, render_styled, render_nil, String.append_empty]

/-- The feedback has a line of its own, if there is any. -/
theorem render_feedback (colour : Bool) (key : Key) :
    render colour (feedback key) = if key.settings.feedback = [] then "" else
      painted colour .dim "Feedback: " ++ String.ofList key.settings.feedback ++ "\n" := by
  unfold feedback
  split
  · rfl
  · rw [render_styled, render_text, render_nil]
    simp only [String.append_assoc, String.append_empty]

/-- The number of answers, in the singular or in the plural. -/
theorem heading_eq (grader : Grader) (grades : List Grade) : heading grader grades =
    toString grades.length ++ " answer" ++ (if grades.length = 1 then "" else "s") ++
      " graded against block " ++ toString (grader.index + 1) ++
      " (" ++ toString grader.block.percent.toNat ++ "%):" := by
  unfold heading
  split <;> simp only [String.append_assoc] <;> rfl

/-- The summary writes the three counts of its grades. -/
theorem render_summary (colour : Bool) (grader : Grader) (grades : List Grade) :
    render colour (summary grader grades) = summaryText colour grader grades.length
      (correctCount grades) (incompleteCount grades) (wrongCount grades) := by
  have hpartial : " " ++ "partial" = " partial" := rfl
  have hwrong : " " ++ "wrong" = " wrong" := rfl
  unfold summary summaryText
  rw [render_append, render_append, render_append, render_append, render_text, render_styled,
    render_styled, render_nil, render_text, render_nil, render_tally, render_tally,
    render_feedback, heading_eq]
  simp only [String.append_assoc, String.append_empty, hpartial, hwrong]

/-- The report on some grades as it is written, line by line and then the summary. -/
theorem render_ofGrades (colour : Bool) (grader : Grader) (grades : List Grade) :
    render colour (ofGrades grader grades) = String.join (grades.map (gradeText colour)) ++
      summaryText colour grader grades.length (correctCount grades) (incompleteCount grades)
        (wrongCount grades) := by
  have hlines : (grades.map gradeLine).map (render colour) = grades.map (gradeText colour) := by
    rw [List.map_map]
    exact List.map_congr_left fun g _ => render_gradeLine colour g
  rw [ofGrades, render_append, List.flatMap_def, render_flatten, hlines, render_summary]

/-- A pattern is printed with the expression that it stands for. -/
theorem render_listPattern (colour : Bool) (o : Options) (p : Text) :
    render colour (listPattern o p) = "  [[" ++ String.ofList p ++ "]]\n" ++
      painted colour .dim ("    " ++ String.ofList (Pattern.expand o p) ++ "\n") := by
  unfold listPattern
  rw [render_text, render_styled, render_nil, String.append_empty]

theorem render_listLetters (colour : Bool) (o : Options) :
    render colour (listLetters o) = if o.letters = [] then "" else
      painted colour .dim (" /" ++ String.ofList o.letters ++ "/") := by
  unfold listLetters
  split
  · rfl
  · rw [render_styled, render_nil, String.append_empty]

/-- A block is printed with its number, its weight, its letters and its patterns. -/
theorem render_listBlock (colour : Bool) (number : Nat) (b : Block) :
    render colour (listBlock number b) = blockText colour number b := by
  have hpatterns : (b.patterns.map (listPattern b.options)).map (render colour) =
      b.patterns.map fun p => "  [[" ++ String.ofList p ++ "]]\n" ++
        painted colour .dim ("    " ++ String.ofList (Pattern.expand b.options p) ++ "\n") := by
    rw [List.map_map]
    exact List.map_congr_left fun p _ => render_listPattern colour b.options p
  have horder : (if b.options.anyOrder then " any order\n" else "\n") =
      (if b.options.anyOrder then " any order" else "") ++ "\n" := by
    split <;> rfl
  unfold listBlock blockText
  rw [render_append, render_append, render_append, render_styled, render_nil, render_text,
    render_nil, render_listLetters, List.flatMap_def, render_flatten, hpatterns, horder]
  simp only [String.append_assoc, String.append_empty]

/-- The settings are printed one to a line, the feedback only if there is one. -/
theorem render_listSettings (colour : Bool) (s : Settings) :
    render colour (listSettings s) = "separator: " ++
      String.ofList (Text.Quoted.quote Text.Quoted.visible s.separator) ++ "\n" ++
      "points: " ++ Number.plain s.points ++ "\n" ++
      "size: " ++ toString s.size.toInt ++ "\n" ++
      (if s.feedback = [] then "" else "feedback: " ++ String.ofList s.feedback ++ "\n") := by
  unfold listSettings
  rw [render_append, render_text, render_text, render_text, render_nil]
  split
  · simp only [render_nil, String.append_assoc, String.append_empty]
  · rw [render_text, render_nil]
    simp only [String.append_assoc, String.append_empty]

/-- The listing of a key as it is written, block by block and then the settings. -/
theorem render_listing (colour : Bool) (key : Key) :
    render colour (listing key) = listingText colour key := by
  have hblocks : (key.blocks.mapIdx fun i b => listBlock (i + 1) b).map (render colour) =
      key.blocks.mapIdx fun i b => blockText colour (i + 1) b := by
    rw [List.mapIdx_eq_zipIdx_map, List.mapIdx_eq_zipIdx_map, List.map_map]
    exact List.map_congr_left fun x _ => render_listBlock colour (x.2 + 1) x.1
  rw [listing, render_append, render_flatten, hblocks, render_listSettings, listingText]
  simp only [String.append_assoc]

/-! ## Sequences put in -/

/-- A colour sequence: an escape and a bracket, a number, and the letter `m`. -/
def IsSequence (t : Text) : Prop :=
  ∃ n : Nat, t = '\x1b' :: '[' :: (Nat.toDigits 10 n ++ ['m'])

/-- The second text is the first one with colour sequences put in. -/
inductive Coloured : Text → Text → Prop
  | nil : Coloured [] []
  | char (c : Char) {s t : Text} (rest : Coloured s t) : Coloured (c :: s) (c :: t)
  | sequence {q s t : Text} (hq : IsSequence q) (rest : Coloured s t) : Coloured s (q ++ t)

theorem isSequence_reset : IsSequence reset.toList :=
  ⟨0, by decide⟩

/-- Each style has a sequence of its own kind. -/
theorem isSequence_sequence (style : Style) : IsSequence (sequence style).toList := by
  cases style with
  | green => exact ⟨32, by decide⟩
  | red => exact ⟨31, by decide⟩
  | yellow => exact ⟨33, by decide⟩
  | bold => exact ⟨1, by decide⟩
  | dim => exact ⟨2, by decide⟩

theorem Coloured.append_left {s t : Text} (r : Text) (h : Coloured s t) :
    Coloured (r ++ s) (r ++ t) := by
  induction r with
  | nil => exact h
  | cons c r ih => exact .char c ih

/-- Colour commands put in nothing but sequences. -/
theorem coloured_render (cs : List Command) :
    Coloured (render false cs).toList (render true cs).toList := by
  induction cs with
  | nil => exact .nil
  | cons c cs ih =>
    rw [render_cons, render_cons, String.toList_append, String.toList_append]
    cases c with
    | text t => exact ih.append_left t.toList
    | switchOn style =>
      have hstyle := Coloured.sequence isSequence_reset
        (Coloured.sequence (isSequence_sequence style) ih)
      simpa [Command.render, Command.isText, Command.written] using hstyle
    | switchOff =>
      have hreset := Coloured.sequence isSequence_reset ih
      simpa [Command.render, Command.isText, Command.written] using hreset

/-! ## Reports -/

/-- A report that some print calls write.  Without colour it is what is left of it when the colour
commands are deleted, and when the colour sequences are. -/
structure IsDecorated (calls : List (List Command)) (report : List Command) : Prop where
  /-- The report is written call by call. -/
  report_eq : report = calls.flatten
  coloured : render true report = written report
  uncoloured : render false report = written (report.filter Command.isText)
  inserted : Coloured (render false report).toList (render true report).toList
  /-- No style outlasts a call, or is switched on while another one is on. -/
  settled : ∀ call ∈ calls, IsSettled call

/-- Colour decorates what is written by calls that switch their styles off. -/
theorem isDecorated_of_eq {calls : List (List Command)} {report : List Command}
    (h : report = calls.flatten) (hsettled : ∀ call ∈ calls, IsSettled call) :
    IsDecorated calls report where
  report_eq := h
  coloured := render_true report
  uncoloured := render_false report
  inserted := coloured_render report
  settled := hsettled

/-- A record is written without colour commands. -/
theorem isText_of_mem_records {grader : Grader} {grades : List Grade}
    (h : c ∈ records grader grades) : c.isText = true := by
  obtain ⟨g, -, hmem⟩ := List.mem_flatMap.1 h
  obtain rfl := List.mem_singleton.1 hmem
  rfl

/-- Colour decorates the listing of a key, the report on some grades, line by line and then the
summary, and the records of some grades; and in these there is none.  Listing and report are written
as `listingText`, `gradeText` and `summaryText` say. -/
theorem colour_decorates (key : Key) (grader : Grader) (grades : List Grade) :
    IsDecorated [listing key] (listing key) ∧
    IsDecorated (grades.map gradeLine ++ [summary grader grades]) (ofGrades grader grades) ∧
    IsDecorated (grades.map (record grader.key)) (records grader grades) ∧
    (∀ c ∈ records grader grades, c.isText = true) ∧
    render true (records grader grades) = render false (records grader grades) ∧
    ∀ colour, render colour (listing key) = listingText colour key ∧
      render colour (ofGrades grader grades) = String.join (grades.map (gradeText colour)) ++
        summaryText colour grader grades.length (correctCount grades) (incompleteCount grades)
          (wrongCount grades) := by
  have hrecords : ∀ c ∈ records grader grades, c.isText = true := fun c hc =>
    isText_of_mem_records hc
  refine ⟨?_, ?_, ?_, hrecords, render_eq_of_isText hrecords, fun colour => ?_⟩
  -- the listing, in one call
  · apply isDecorated_of_eq (List.append_nil _).symm
    intro call hcall
    rw [List.mem_singleton.1 hcall]
    exact isSettled_listing key
  -- the report, line by line and then the summary
  · apply isDecorated_of_eq
    · simp [ofGrades, List.flatMap_def]
    · intro call hcall
      rcases List.mem_append.1 hcall with hline | hsummary
      · obtain ⟨g, -, rfl⟩ := List.mem_map.1 hline
        exact isSettled_gradeLine g
      · rw [List.mem_singleton.1 hsummary]
        exact isSettled_summary grader grades
  -- the records, one by one
  · apply isDecorated_of_eq List.flatMap_def
    intro call hcall
    obtain ⟨g, -, rfl⟩ := List.mem_map.1 hcall
    exact isSettled_record grader.key g
  · exact ⟨render_listing colour key, render_ofGrades colour grader grades⟩

end AnswerKey.Report
