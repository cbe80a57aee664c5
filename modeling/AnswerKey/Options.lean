import AnswerKey.Text

/-!
# Matching options

A block of patterns carries seven switches.  They are written as letters: a
capital turns a switch on, a small letter turns it off, letters are obeyed from
left to right, and any other character is ignored.
-/

namespace AnswerKey

/-- The seven switches, in the order in which they are written. -/
inductive Switch where
  /-- Letters match in either case. -/
  | ignoreCase
  /-- The dot matches a newline too. -/
  | dotAll
  /-- Blanks may stand around `;` and around an escaped pipe. -/
  | widePipes
  /-- Blanks may stand around `<`, `<<`, `>` and `>>`. -/
  | wideRedirects
  /-- The patterns are sought among the lines of the answer, in any order. -/
  | anyOrder
  /-- A space stands for one or more spaces and tabs. -/
  | wideSpaces
  /-- Padding around the answer, and around each line of it, does not count. -/
  | trimAnswer
deriving DecidableEq, Repr

namespace Switch

/-- All switches, in the order in which they are written. -/
def all : List Switch :=
  [ignoreCase, dotAll, widePipes, wideRedirects, anyOrder, wideSpaces, trimAnswer]

/-- The capital letter of a switch. -/
def letter : Switch → Char
  | ignoreCase => 'I'
  | dotAll => 'D'
  | widePipes => 'P'
  | wideRedirects => 'R'
  | anyOrder => 'O'
  | wideSpaces => 'S'
  | trimAnswer => 'T'

/-- The letter that turns a switch on or off. -/
def signal (s : Switch) (on : Bool) : Char :=
  if on then s.letter else s.letter.toLower

/-- What a character asks for: a switch, and whether it is to be on. -/
def ofChar? (c : Char) : Option (Switch × Bool) :=
  (all.find? fun s => s.letter == c.toUpper).map fun s => (s, c.isUpper)

end Switch

/-- The switches of a block; only the last two are on from the start. -/
structure Options where
  ignoreCase : Bool := false
  dotAll : Bool := false
  widePipes : Bool := false
  wideRedirects : Bool := false
  anyOrder : Bool := false
  wideSpaces : Bool := true
  trimAnswer : Bool := true
deriving DecidableEq, Repr, Inhabited

namespace Options

/-- Whether a switch is on. -/
def get (o : Options) : Switch → Bool
  | .ignoreCase => o.ignoreCase
  | .dotAll => o.dotAll
  | .widePipes => o.widePipes
  | .wideRedirects => o.wideRedirects
  | .anyOrder => o.anyOrder
  | .wideSpaces => o.wideSpaces
  | .trimAnswer => o.trimAnswer

/-- The options with one switch put on or off. -/
def set (o : Options) (s : Switch) (on : Bool) : Options :=
  match s with
  | .ignoreCase => { o with ignoreCase := on }
  | .dotAll => { o with dotAll := on }
  | .widePipes => { o with widePipes := on }
  | .wideRedirects => { o with wideRedirects := on }
  | .anyOrder => { o with anyOrder := on }
  | .wideSpaces => { o with wideSpaces := on }
  | .trimAnswer => { o with trimAnswer := on }

@[simp] theorem get_set (o : Options) (s s' : Switch) (on : Bool) :
    (o.set s on).get s' = if s' = s then on else o.get s' := by
  cases s <;> cases s' <;> rfl

theorem ext_get {o p : Options} (h : ∀ s, o.get s = p.get s) : o = p := by
  cases o
  cases p
  simp only [mk.injEq]
  exact ⟨h .ignoreCase, h .dotAll, h .widePipes, h .wideRedirects, h .anyOrder, h .wideSpaces,
    h .trimAnswer⟩

/-- The options after one letter. -/
def applyLetter (o : Options) (c : Char) : Options :=
  match Switch.ofChar? c with
  | some (s, on) => o.set s on
  | none => o

/-- The options after a run of letters, obeyed from left to right. -/
def apply (o : Options) (letters : Text) : Options :=
  letters.foldl applyLetter o

theorem apply_append (o : Options) (letters more : Text) :
    o.apply (letters ++ more) = (o.apply letters).apply more :=
  List.foldl_append

/-- The options that a run of letters asks for. -/
def ofLetters (letters : Text) : Options :=
  ({} : Options).apply letters

/-- The letters of the switches that differ from the start, in order. -/
def letters (o : Options) : Text :=
  Switch.all.filterMap fun s =>
    if o.get s = ({} : Options).get s then none else some (s.signal (o.get s))

end Options
end AnswerKey
