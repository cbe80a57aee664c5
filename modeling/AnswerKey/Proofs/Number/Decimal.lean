import AnswerKey.Key.Settings
import AnswerKey.Proofs.Number.Literal
import Mathlib.Logic.Basic

/-!
# Decimal literals at the front of a text

What is read off the front of a text is a decimal literal, and the longest one that the text begins
with.  A literal that more of the text follows may be read on over digits and a point.  No exponent
is lost by that, because it begins with a letter, behind which neither goes on.
-/

namespace AnswerKey

namespace Number

variable {t whole rest : Text} {fraction : Option Text} {e : Exponent} {l : Literal}

/-! ## The grammar -/

/-- A sign, which may be missing. -/
def IsSign (s : Text) : Prop :=
  s = [] ∨ s = ['+'] ∨ s = ['-']

/-- Digits and nothing else. -/
def IsDigits (s : Text) : Prop :=
  ∀ c ∈ s, c.isDigit = true

/-- The digits of a literal around its point. -/
inductive IsMantissa : Text → Prop
  | whole {digits : Text} : digits ≠ [] → IsDigits digits → IsMantissa digits
  | pointed {digits more : Text} : digits ≠ [] → IsDigits digits → IsDigits more →
      IsMantissa (digits ++ '.' :: more)
  | fraction {digits : Text} : digits ≠ [] → IsDigits digits → IsMantissa ('.' :: digits)

/-- The exponent of a literal, which may be missing. -/
inductive IsScale : Text → Prop
  | none : IsScale []
  | exponent {letter : Char} {sign digits : Text} : letter = 'e' ∨ letter = 'E' → IsSign sign →
      digits ≠ [] → IsDigits digits → IsScale (letter :: (sign ++ digits))

/-- A decimal literal: a sign, digits around a point, and an exponent. -/
inductive IsDecimal : Text → Prop
  | mk {sign mantissa scale : Text} : IsSign sign → IsMantissa mantissa → IsScale scale →
      IsDecimal (sign ++ (mantissa ++ scale))

theorem isSign_iff {s : Text} :
    IsSign s ↔ ∃ sign : Option Char, (∀ c ∈ sign, c = '+' ∨ c = '-') ∧ s = sign.toList := by
  constructor
  · rintro (rfl | rfl | rfl)
    · exact ⟨none, nofun, rfl⟩
    · exact ⟨some '+', by simp, rfl⟩
    · exact ⟨some '-', by simp, rfl⟩
  · rintro ⟨sign, hsign, rfl⟩
    cases sign with
    | none => exact .inl rfl
    | some c =>
      rcases hsign c rfl with rfl | rfl
      · exact .inr (.inl rfl)
      · exact .inr (.inr rfl)

/-! ## The digits around the point -/

/-- The digits around the point as they are written. -/
def mantissaText (whole : Text) (fraction : Option Text) : Text :=
  whole ++ (match fraction with
    | none => []
    | some digits => '.' :: digits)

/-- Parts of a literal that make up the digits around a point. -/
structure MantissaParts (whole : Text) (fraction : Option Text) : Prop where
  whole_digits : IsDigits whole
  fraction_digits : ∀ f ∈ fraction, IsDigits f
  some_digit : whole ≠ [] ∨ ∃ f ∈ fraction, f ≠ []

theorem isMantissa_iff {s : Text} :
    IsMantissa s ↔
      ∃ whole fraction, MantissaParts whole fraction ∧ s = mantissaText whole fraction := by
  constructor
  · intro h
    cases h with
    | whole hne hdigits =>
      exact ⟨s, none, ⟨hdigits, nofun, .inl hne⟩, (List.append_nil s).symm⟩
    | @pointed digits more hne hdigits hmore =>
      exact ⟨digits, some more, ⟨hdigits, fun f hf => Option.some.inj hf ▸ hmore, .inl hne⟩, rfl⟩
    | @fraction digits hne hdigits =>
      exact ⟨[], some digits, ⟨nofun, fun f hf => Option.some.inj hf ▸ hdigits,
        .inr ⟨digits, rfl, hne⟩⟩, rfl⟩
  · rintro ⟨whole, fraction, h, rfl⟩
    cases fraction with
    | none =>
      have hne : whole ≠ [] := h.some_digit.resolve_right nofun
      have htext : mantissaText whole none = whole := List.append_nil whole
      rw [htext]
      exact .whole hne h.whole_digits
    | some f =>
      have hf := h.fraction_digits f rfl
      rcases h.some_digit with hne | ⟨g, hg, hne⟩
      · exact .pointed hne h.whole_digits hf
      · obtain rfl : f = g := Option.some.inj hg
        by_cases hnil : whole = []
        · subst hnil
          exact .fraction hne hf
        · exact .pointed hnil h.whole_digits hf

/-- Digits around a point are read up to where neither digits nor a first point go on. -/
theorem MantissaParts.readDigits?_append (h : MantissaParts whole fraction)
    (hrest : ∀ c ∈ rest.head?, c.isDigit = false)
    (hpoint : fraction = none → rest.head? ≠ some '.') :
    Literal.readDigits? (mantissaText whole fraction ++ rest) = some ((whole, fraction), rest) := by
  unfold Literal.readDigits? mantissaText
  cases fraction with
  | none =>
    have hne : whole ≠ [] := h.some_digit.resolve_right nofun
    simp only [List.append_nil, spanDigits_run h.whole_digits hrest]
    split
    · exact (hpoint rfl rfl).elim
    · rw [if_neg hne]
  | some f =>
    have hspan : spanDigits (whole ++ '.' :: (f ++ rest)) = (whole, '.' :: (f ++ rest)) :=
      spanDigits_run h.whole_digits fun c hc => Option.some.inj hc ▸ rfl
    have hne : ¬ (whole = [] ∧ f = []) := by
      rintro ⟨hwhole, rfl⟩
      rcases h.some_digit with hne | ⟨g, hg, hne⟩
      · exact hne hwhole
      · exact hne (Option.some.inj hg).symm
    simp only [List.append_assoc, List.cons_append, hspan,
      spanDigits_run (h.fraction_digits f rfl) hrest]
    rw [if_neg hne]

/-- Whatever follows digits around a point, they are read, and perhaps more of the kind. -/
theorem MantissaParts.exists_readDigits?_append (h : MantissaParts whole fraction) (t : Text) :
    ∃ whole' fraction' more rest,
      Literal.readDigits? (mantissaText whole fraction ++ t) = some ((whole', fraction'), rest) ∧
        mantissaText whole' fraction' = mantissaText whole fraction ++ more := by
  obtain ⟨more, s, rfl, hmore, hs⟩ := exists_digits_append t
  have hdigits : ∀ {s}, IsDigits s → IsDigits (s ++ more) := fun h =>
    List.forall_mem_append.2 ⟨h, hmore⟩
  cases fraction with
  | some f =>
    have hparts : MantissaParts whole (some (f ++ more)) :=
      ⟨h.whole_digits, fun g hg => Option.some.inj hg ▸ hdigits (h.fraction_digits f rfl),
        h.some_digit.imp_right fun ⟨g, hg, hne⟩ =>
          ⟨_, rfl, List.append_ne_nil_of_left_ne_nil (Option.some.inj hg ▸ hne) more⟩⟩
    have htext : mantissaText whole (some (f ++ more)) = mantissaText whole (some f) ++ more :=
      (List.append_assoc whole ('.' :: f) more).symm
    refine ⟨whole, some (f ++ more), more, s, ?_, htext⟩
    rw [← List.append_assoc, ← htext]
    exact hparts.readDigits?_append hs nofun
  | none =>
    have hne : whole ++ more ≠ [] :=
      List.append_ne_nil_of_left_ne_nil (h.some_digit.resolve_right nofun) more
    by_cases hpoint : s.head? = some '.'
    · -- the point and the digits behind it are read as well
      obtain ⟨s', rfl⟩ := List.head?_eq_some_iff.1 hpoint
      obtain ⟨f, rest, rfl, hf, hrest⟩ := exists_digits_append s'
      have hparts : MantissaParts (whole ++ more) (some f) :=
        ⟨hdigits h.whole_digits, fun g hg => Option.some.inj hg ▸ hf, .inl hne⟩
      have htext : mantissaText (whole ++ more) (some f) =
          mantissaText whole none ++ (more ++ '.' :: f) := by simp [mantissaText]
      refine ⟨whole ++ more, some f, more ++ '.' :: f, rest, ?_, htext⟩
      have hall : mantissaText whole none ++ (more ++ '.' :: (f ++ rest)) =
          mantissaText (whole ++ more) (some f) ++ rest := by simp [mantissaText]
      rw [hall]
      exact hparts.readDigits?_append hrest nofun
    -- nothing but digits goes on the whole part
    · have hparts : MantissaParts (whole ++ more) none :=
        ⟨hdigits h.whole_digits, nofun, .inl hne⟩
      have htext : mantissaText (whole ++ more) none = mantissaText whole none ++ more := by
        simp [mantissaText]
      refine ⟨whole ++ more, none, more, s, ?_, htext⟩
      rw [← List.append_assoc, ← htext]
      exact hparts.readDigits?_append hs fun _ => hpoint

/-- Digits around a point stand at the front of a text, or none are read there. -/
theorem exists_mantissaParts_or_none (t : Text) :
    (∃ whole fraction rest, MantissaParts whole fraction ∧ t = mantissaText whole fraction ++ rest ∧
      Literal.readDigits? t = some ((whole, fraction), rest)) ∨ Literal.readDigits? t = none := by
  obtain ⟨whole, s, rfl, hwhole, hs⟩ := exists_digits_append t
  by_cases hpoint : s.head? = some '.'
  · obtain ⟨s', rfl⟩ := List.head?_eq_some_iff.1 hpoint
    obtain ⟨f, rest, rfl, hf, hrest⟩ := exists_digits_append s'
    by_cases hnil : whole = [] ∧ f = []
    -- a point by itself is no mantissa
    · right
      unfold Literal.readDigits?
      simp only [spanDigits_run hwhole hs, spanDigits_run hf hrest]
      rw [if_pos hnil]
    · left
      have hparts : MantissaParts whole (some f) :=
        ⟨hwhole, fun g hg => Option.some.inj hg ▸ hf, by
          rw [not_and_or] at hnil
          exact hnil.imp_right fun hne => ⟨f, rfl, hne⟩⟩
      have ht : whole ++ '.' :: (f ++ rest) = mantissaText whole (some f) ++ rest :=
        (List.append_assoc whole ('.' :: f) rest).symm
      exact ⟨whole, some f, rest, hparts, ht, ht ▸ hparts.readDigits?_append hrest nofun⟩
  · by_cases hnil : whole = []
    · right
      unfold Literal.readDigits?
      simp only [spanDigits_run hwhole hs]
      split
      · exact (hpoint rfl).elim
      · rw [if_pos hnil]
    · left
      have hparts : MantissaParts whole none := ⟨hwhole, nofun, .inl hnil⟩
      have ht : whole ++ s = mantissaText whole none ++ s :=
        congrArg (· ++ s) (List.append_nil whole).symm
      exact ⟨whole, none, s, hparts, ht, ht ▸ hparts.readDigits?_append hs fun _ => hpoint⟩

/-! ## Exponents -/

/-- An exponent whose parts are what they should be. -/
structure Exponent.WellFormed (e : Exponent) : Prop where
  letter_eq : e.letter = 'e' ∨ e.letter = 'E'
  isSign : ∀ c ∈ e.sign, c = '+' ∨ c = '-'
  digits_ne_nil : e.digits ≠ []
  isDigits : IsDigits e.digits

theorem isScale_iff {s : Text} :
    IsScale s ↔ s = [] ∨ ∃ e : Exponent, e.WellFormed ∧ s = e.text := by
  constructor
  · intro h
    cases h with
    | none => exact .inl rfl
    | @exponent letter sign digits hletter hsign hne hdigits =>
      obtain ⟨sign, hisSign, rfl⟩ := isSign_iff.1 hsign
      exact .inr ⟨⟨letter, sign, digits⟩, ⟨hletter, hisSign, hne, hdigits⟩, rfl⟩
  · rintro (rfl | ⟨e, h, rfl⟩)
    · exact .none
    · exact .exponent h.letter_eq (isSign_iff.2 ⟨e.sign, h.isSign, rfl⟩) h.digits_ne_nil h.isDigits

namespace Exponent

/-- An exponent is read with all the digits that follow it. -/
theorem WellFormed.read?_append (h : e.WellFormed) (hrest : ∀ c ∈ rest.head?, c.isDigit = false) :
    Exponent.read? (e.text ++ rest) = some (e, rest) := by
  obtain ⟨letter, sign, digits⟩ := e
  have hhead : ∀ c ∈ (digits ++ rest).head?, c ≠ '+' ∧ c ≠ '-' := by
    obtain ⟨d, digits', hcons⟩ := List.exists_cons_of_ne_nil h.digits_ne_nil
    intro c hc
    rw [show digits = d :: digits' from hcons] at hc
    exact not_sign_of_isDigit (h.isDigits c (hcons ▸ Option.some.inj hc ▸ List.mem_cons_self))
  have htext : Exponent.text ⟨letter, sign, digits⟩ ++ rest =
      letter :: (sign.toList ++ (digits ++ rest)) :=
    congrArg (letter :: ·) (List.append_assoc _ _ _)
  rw [htext, Exponent.read?]
  simp only [readSign_append h.isSign hhead, spanDigits_run h.isDigits hrest]
  rw [if_pos h.letter_eq, if_neg h.digits_ne_nil]

/-- More digits are read on. -/
theorem WellFormed.exists_read?_append (h : e.WellFormed) (t : Text) :
    ∃ (e' : Exponent) (more rest : Text), Exponent.read? (e.text ++ t) = some (e', rest) ∧
      e'.text = e.text ++ more := by
  obtain ⟨more, rest, rfl, hmore, hrest⟩ := exists_digits_append t
  have h' : Exponent.WellFormed { e with digits := e.digits ++ more } :=
    ⟨h.letter_eq, h.isSign, List.append_ne_nil_of_left_ne_nil h.digits_ne_nil more,
      List.forall_mem_append.2 ⟨h.isDigits, hmore⟩⟩
  have htext : Exponent.text { e with digits := e.digits ++ more } = e.text ++ more :=
    (List.append_assoc _ e.digits more).symm
  refine ⟨_, more, rest, ?_, htext⟩
  rw [← List.append_assoc, ← htext]
  exact h'.read?_append hrest

/-- An exponent stands at the front of a text, or none is read there. -/
theorem exists_wellFormed_or_none (t : Text) :
    (∃ (e : Exponent) (rest : Text), e.WellFormed ∧ t = e.text ++ rest ∧
      Exponent.read? t = some (e, rest)) ∨ Exponent.read? t = none := by
  cases t with
  | nil => exact .inr rfl
  | cons letter s =>
    by_cases hletter : letter = 'e' ∨ letter = 'E'
    · obtain ⟨sign, s', hsign, rfl, hisSign⟩ := exists_readSign_eq s
      obtain ⟨digits, rest, rfl, hdigits, hrest⟩ := exists_digits_append s'
      by_cases hnil : digits = []
      · right
        rw [Exponent.read?]
        simp only [hsign, spanDigits_run hdigits hrest]
        rw [if_pos hletter, if_pos hnil]
      · left
        have h : Exponent.WellFormed ⟨letter, sign, digits⟩ := ⟨hletter, hisSign, hnil, hdigits⟩
        have htext : letter :: (sign.toList ++ (digits ++ rest)) =
            Exponent.text ⟨letter, sign, digits⟩ ++ rest :=
          congrArg (letter :: ·) (List.append_assoc _ _ _).symm
        exact ⟨_, rest, h, htext, htext ▸ h.read?_append hrest⟩
    · right
      rw [Exponent.read?, if_neg hletter]

end Exponent

/-! ## Literals -/

/-- The exponent as it is written, if there is one. -/
def scaleText : Option Exponent → Text
  | none => []
  | some e => e.text

/-- A literal whose parts are what they should be. -/
structure Literal.WellFormed (l : Literal) : Prop where
  isSign : ∀ c ∈ l.sign, c = '+' ∨ c = '-'
  mantissa : MantissaParts l.whole l.fraction
  exponent : ∀ e ∈ l.exponent, e.WellFormed

theorem Literal.text_eq (l : Literal) :
    l.text = l.sign.toList ++ (mantissaText l.whole l.fraction ++ scaleText l.exponent) := by
  obtain ⟨sign, whole, fraction, exponent⟩ := l
  cases fraction <;> cases exponent <;> simp [Literal.text, mantissaText, scaleText]

theorem isDecimal_iff {s : Text} : IsDecimal s ↔ ∃ l : Literal, l.WellFormed ∧ s = l.text := by
  constructor
  · rintro ⟨hsign, hmantissa, hscale⟩
    obtain ⟨sign, hisSign, rfl⟩ := isSign_iff.1 hsign
    obtain ⟨whole, fraction, hparts, rfl⟩ := isMantissa_iff.1 hmantissa
    rcases isScale_iff.1 hscale with rfl | ⟨e, he, rfl⟩
    · exact ⟨⟨sign, whole, fraction, none⟩, ⟨hisSign, hparts, nofun⟩,
        (Literal.text_eq ⟨sign, whole, fraction, none⟩).symm⟩
    · exact ⟨⟨sign, whole, fraction, some e⟩, ⟨hisSign, hparts, fun e' he' =>
        Option.some.inj he' ▸ he⟩, (Literal.text_eq ⟨sign, whole, fraction, some e⟩).symm⟩
  · rintro ⟨l, h, rfl⟩
    rw [Literal.text_eq]
    refine .mk (isSign_iff.2 ⟨_, h.isSign, rfl⟩) (isMantissa_iff.2 ⟨_, _, h.mantissa, rfl⟩) ?_
    cases he : l.exponent with
    | none => exact .none
    | some e => exact isScale_iff.2 (.inr ⟨e, h.exponent e he, rfl⟩)

/-- A mantissa begins with no sign. -/
theorem MantissaParts.head_not_sign (h : MantissaParts whole fraction) (t : Text) :
    ∀ c ∈ (mantissaText whole fraction ++ t).head?, c ≠ '+' ∧ c ≠ '-' := by
  cases whole with
  | cons d whole =>
    intro c hc
    exact not_sign_of_isDigit (h.whole_digits c (Option.some.inj hc ▸ List.mem_cons_self))
  | nil =>
    obtain ⟨f, hf, -⟩ := h.some_digit.resolve_left fun hne => hne rfl
    obtain rfl := Option.mem_def.1 hf
    intro c hc
    obtain rfl : '.' = c := Option.some.inj hc
    decide

/-- The letter of an exponent ends the digits around the point. -/
theorem MantissaParts.readDigits?_exponent (h : MantissaParts whole fraction) (he : e.WellFormed)
    (t : Text) : Literal.readDigits? (mantissaText whole fraction ++ (e.text ++ t)) =
      some ((whole, fraction), e.text ++ t) := by
  have hletter : ∀ c ∈ (e.text ++ t).head?, c = 'e' ∨ c = 'E' := fun c hc =>
    Option.some.inj hc ▸ he.letter_eq
  apply h.readDigits?_append
  · intro c hc
    rcases hletter c hc with rfl | rfl <;> rfl
  · intro _ hpoint
    rcases hletter '.' hpoint with hdot | hdot <;> exact absurd hdot (by decide)

namespace Literal

variable {s : Text} {sign : Option Char}

theorem read?_of_readDigits? (hsign : readSign t = (sign, s))
    (hdigits : readDigits? s = some ((whole, fraction), rest)) :
    read? t =
      match Exponent.read? rest with
      | some (e, rest) => some (⟨sign, whole, fraction, some e⟩, rest)
      | none => some (⟨sign, whole, fraction, none⟩, rest) := by
  unfold read?
  cases hread : Exponent.read? rest with
  | none => simp only [hsign, hdigits, hread]
  | some found => simp only [hsign, hdigits, hread]

/-- A literal stands at the front of a text, or none is read there. -/
theorem exists_wellFormed_or_none (t : Text) :
    (∃ (l : Literal) (rest : Text), l.WellFormed ∧ t = l.text ++ rest ∧
      read? t = some (l, rest)) ∨ read? t = none := by
  obtain ⟨sign, s, hsign, rfl, hisSign⟩ := exists_readSign_eq t
  rcases exists_mantissaParts_or_none s with ⟨whole, fraction, rest, hparts, rfl, hdigits⟩ | hnone
  · left
    rw [read?_of_readDigits? hsign hdigits]
    rcases Exponent.exists_wellFormed_or_none rest with ⟨e, rest', he, rfl, hread⟩ | hread
    · refine ⟨⟨sign, whole, fraction, some e⟩, rest', ⟨hisSign, hparts, fun e' he' =>
        Option.some.inj he' ▸ he⟩, ?_, ?_⟩
      · rw [text_eq]
        simp only [scaleText, List.append_assoc]
      · rw [hread]
    · refine ⟨⟨sign, whole, fraction, none⟩, rest, ⟨hisSign, hparts, nofun⟩, ?_, ?_⟩
      · rw [text_eq]
        simp only [scaleText, List.append_assoc, List.nil_append]
      · rw [hread]
  · right
    unfold read?
    simp only [hsign, hnone]

/-- The sign of a literal is read first, and no more than it. -/
theorem WellFormed.readSign_eq (h : l.WellFormed) (t : Text) : readSign (l.text ++ t) =
    (l.sign, mantissaText l.whole l.fraction ++ (scaleText l.exponent ++ t)) := by
  rw [text_eq, List.append_assoc, List.append_assoc]
  exact readSign_append h.isSign (h.mantissa.head_not_sign _)

/-- A literal is read with what it goes on with. -/
theorem WellFormed.exists_read?_append (h : l.WellFormed) (t : Text) :
    ∃ (l' : Literal) (more rest : Text), read? (l.text ++ t) = some (l', rest) ∧
      l'.text = l.text ++ more := by
  have hsign := h.readSign_eq t
  obtain ⟨sign, whole, fraction, exponent⟩ := l
  cases exponent with
  | some e =>
    -- the digits of the exponent may go on
    have he := h.exponent e rfl
    have hdigits := h.mantissa.readDigits?_exponent he t
    obtain ⟨e', more, rest, hread, htext⟩ := he.exists_read?_append t
    refine ⟨⟨sign, whole, fraction, some e'⟩, more, rest, ?_, ?_⟩
    · rw [read?_of_readDigits? hsign hdigits, hread]
    · rw [text_eq, text_eq]
      simp only [scaleText, htext, List.append_assoc]
  | none =>
    -- the mantissa may go on, and an exponent may follow it
    obtain ⟨whole', fraction', more, rest, hdigits, htext⟩ :=
      h.mantissa.exists_readDigits?_append t
    rcases Exponent.exists_wellFormed_or_none rest with ⟨e, rest', -, -, hread⟩ | hread
    · refine ⟨⟨sign, whole', fraction', some e⟩, more ++ e.text, rest', ?_, ?_⟩
      · rw [read?_of_readDigits? hsign hdigits, hread]
      · rw [text_eq, text_eq]
        simp only [scaleText, htext, List.append_assoc, List.nil_append]
    · refine ⟨⟨sign, whole', fraction', none⟩, more, rest, ?_, ?_⟩
      · rw [read?_of_readDigits? hsign hdigits, hread]
      · rw [text_eq, text_eq]
        simp only [scaleText, htext, List.append_assoc, List.append_nil]

/-- The text of a literal is read as this literal. -/
theorem WellFormed.read?_text (h : l.WellFormed) : read? l.text = some (l, []) := by
  have hsign := h.readSign_eq []
  obtain ⟨sign, whole, fraction, exponent⟩ := l
  rw [← List.append_nil (text _)]
  cases exponent with
  | some e =>
    have he := h.exponent e rfl
    have hdigits := h.mantissa.readDigits?_exponent he []
    have hend : ∀ c ∈ ([] : Text).head?, c.isDigit = false := nofun
    rw [read?_of_readDigits? hsign hdigits, he.read?_append hend]
  | none =>
    rw [read?_of_readDigits? hsign (h.mantissa.readDigits?_append nofun nofun)]
    rfl

/-- What is read stands at the front of the text. -/
theorem wellFormed_of_read? (h : read? t = some (l, rest)) : l.WellFormed ∧ t = l.text ++ rest := by
  rcases exists_wellFormed_or_none t with ⟨l', rest', hl, ht, hread⟩ | hnone
  · rw [h] at hread
    cases hread
    exact ⟨hl, ht⟩
  · rw [h] at hnone
    cases hnone

/-- A literal at the front of a text is part of what is read there. -/
theorem exists_read?_of_prefix {p : Text} (hp : p <+: t) (hdecimal : IsDecimal p) :
    ∃ (l : Literal) (rest : Text), read? t = some (l, rest) ∧ p <+: l.text := by
  obtain ⟨l, hl, rfl⟩ := isDecimal_iff.1 hdecimal
  obtain ⟨s, rfl⟩ := hp
  obtain ⟨l', more, rest, hread, htext⟩ := hl.exists_read?_append s
  exact ⟨l', rest, hread, more, htext.symm⟩

end Literal

end Number

/-! ## Points -/

namespace Settings

open Number

/-- The points that a value gives if `parse` makes a number of the text of a literal. -/
def pointsBy (parse : Text → Option Float) (value : Text) : Float :=
  match Literal.read? (Text.trim value) with
  | some (literal, _) => (parse literal.text).getD 0.0
  | none => 0.0

/-- The number that a whole text writes. -/
def literalValue? (t : Text) : Option Float :=
  match Literal.read? t with
  | some (literal, []) => some literal.toFloat
  | _ => none

/-- The text of a literal has the value of the literal. -/
theorem literalValue?_text {l : Literal} (h : l.WellFormed) :
    literalValue? l.text = some l.toFloat := by
  unfold literalValue?
  rw [h.read?_text]

theorem isSome_literalValue? {s : Text} (h : IsDecimal s) : (literalValue? s).isSome := by
  obtain ⟨l, hl, rfl⟩ := isDecimal_iff.1 h
  rw [literalValue?_text hl]
  rfl

theorem readPoints_eq_pointsBy (value : Text) :
    readPoints value = pointsBy literalValue? value := by
  unfold readPoints pointsBy
  cases hread : Literal.read? (Text.trim value) with
  | none => rfl
  | some found =>
    obtain ⟨l, rest⟩ := found
    simp only [literalValue?_text (Literal.wellFormed_of_read? hread).1, Option.getD_some]

/-- Where no decimal stands in front there are no points, whatever the reader. -/
theorem pointsBy_of_no_decimal {value : Text} (h : ∀ p, p <+: Text.trim value → ¬ IsDecimal p)
    (parse : Text → Option Float) : pointsBy parse value = 0.0 := by
  unfold pointsBy
  cases hread : Literal.read? (Text.trim value) with
  | none => rfl
  | some found =>
    obtain ⟨hl, ht⟩ := Literal.wellFormed_of_read? hread
    exact (h _ ⟨_, ht.symm⟩ (isDecimal_iff.2 ⟨_, hl, rfl⟩)).elim

/-- A literal is read off a value just when the trimmed value begins with one.  The text that
`parse` makes a number of is the longest of them, so a `parse` that knows all literals knows this
one, and the points are what it says.  They are 0 for want of a literal otherwise. -/
theorem readPoints_longest (parse : Text → Option Float)
    (hparse : ∀ s, IsDecimal s → (parse s).isSome) (value : Text) :
    ((∃ found, Literal.read? (Text.trim value) = some found) ↔
        ∃ p, p <+: Text.trim value ∧ IsDecimal p) ∧
      (∀ l rest, Literal.read? (Text.trim value) = some (l, rest) →
        Text.trim value = l.text ++ rest ∧ IsDecimal l.text ∧
          (∀ p, p <+: Text.trim value → IsDecimal p → p.length ≤ l.text.length) ∧
          parse l.text = some (pointsBy parse value)) ∧
      ((∀ p, p <+: Text.trim value → ¬ IsDecimal p) →
        pointsBy parse value = 0.0 ∧ readPoints value = 0.0) ∧
      readPoints value = pointsBy literalValue? value := by
  refine ⟨⟨?_, ?_⟩, fun l rest hread => ?_, fun hnone => ?_, readPoints_eq_pointsBy value⟩
  · rintro ⟨⟨l, rest⟩, hread⟩
    obtain ⟨hl, ht⟩ := Literal.wellFormed_of_read? hread
    exact ⟨l.text, ⟨rest, ht.symm⟩, isDecimal_iff.2 ⟨l, hl, rfl⟩⟩
  · rintro ⟨p, hp, hdecimal⟩
    obtain ⟨l, rest, hread, -⟩ := Literal.exists_read?_of_prefix hp hdecimal
    exact ⟨_, hread⟩
  · obtain ⟨hl, ht⟩ := Literal.wellFormed_of_read? hread
    have hdecimal : IsDecimal l.text := isDecimal_iff.2 ⟨l, hl, rfl⟩
    refine ⟨ht, hdecimal, fun p hp hdecimal' => ?_, ?_⟩
    -- what goes on from a decimal in front is this literal, so none is longer
    · obtain ⟨l', rest', hread', hprefix⟩ := Literal.exists_read?_of_prefix hp hdecimal'
      obtain ⟨rfl, -⟩ := Prod.mk.inj (Option.some.inj (hread.symm.trans hread'))
      exact hprefix.length_le
    · obtain ⟨x, hx⟩ := Option.isSome_iff_exists.1 (hparse l.text hdecimal)
      unfold pointsBy
      simp only [hread, hx, Option.getD_some]
  · rw [readPoints_eq_pointsBy]
    exact ⟨pointsBy_of_no_decimal hnone parse, pointsBy_of_no_decimal hnone literalValue?⟩

/-- An exponent without digits is left out, and what has no digits before its exponent is no
literal. -/
theorem readPoints_longest_sample :
    (∀ s, IsDecimal s → (literalValue? s).isSome) ∧
      literalValue? "-.5".toList = some (pointsBy literalValue? " -.5e+x\t".toList) ∧
      readPoints ".e5".toList = 0.0 := by
  have hparse : ∀ s, IsDecimal s → (literalValue? s).isSome := fun s h => isSome_literalValue? h
  refine ⟨hparse, ?_, ?_⟩
  · have hread : Literal.read? (Text.trim " -.5e+x\t".toList) =
        some (⟨some '-', [], some ['5'], none⟩, "e+x".toList) := by decide
    exact ((readPoints_longest literalValue? hparse _).2.1 _ _ hread).2.2.2
  · refine ((readPoints_longest literalValue? hparse _).2.2.1 fun p hp hdecimal => ?_).2
    obtain ⟨found, hread⟩ := (readPoints_longest literalValue? hparse _).1.2 ⟨p, hp, hdecimal⟩
    cases hread

end Settings

end AnswerKey
