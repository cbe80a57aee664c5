import AnswerKey.Log.Filter
import AnswerKey.Number.Literal
import AnswerKey.Number.Natural
import AnswerKey.Regex.Reader
import AnswerKey.Text.Delimiter
import AnswerKey.Unicode.Blank
import AnswerKey.Unicode.Letter

/-!
# Reading filters

A directive is `target[span{field}]=limit`, where every part may be missing.  Its outline, which
says where the parts stand, is that of the directive without the blanks around it.
The parts are then cut out of the directive as it was given, so behind leading blanks each part
begins and ends too early.
-/

namespace AnswerKey.Log

/-! ## Reading limits -/

/-- The limit that a text names: a level, `off`, or a number up to five. -/
def readLimit? (t : Text) : Option Limit :=
  match Number.natural? t with
  | some 0 => some none
  | some 1 => some (some .error)
  | some 2 => some (some .warn)
  | some 3 => some (some .info)
  | some 4 => some (some .debug)
  | some 5 => some (some .trace)
  | some _ => none
  | none =>
    let name := t.map Char.toLower
    if name = "off".toList then some none
    else
      ([.error, .warn, .info, .debug, .trace] : List Level).findSome? fun level =>
        if name = level.name.toList then some (some level) else none

/-- The limit behind an equals sign; where none is given everything is let through. -/
def readGiven? (t : Text) : Option Limit :=
  if t = [] then some (some .trace) else readLimit? t

/-! ## Reading spans and fields -/

/-- Whether an expression asks for edges of words of all scripts. -/
def asksForWords : Regex → Bool
  | .assertion (.word _ .unicode) => true
  | .seq a b | .alt a b => asksForWords a || asksForWords b
  | .repeated a _ _ => asksForWords a
  | _ => false

/-- Whether the value that a field should have is written well: as a number or as a regular
expression of any size, which values can be compared with unless it asks for words. -/
def isFieldValue (t : Text) : Bool :=
  let isNumber :=
    match Number.Literal.read? t with
    | some (_, rest) => rest.isEmpty
    | none =>
      ["inf", "infinity", "nan"].contains (String.ofList ((Number.withoutPlus t).map Char.toLower))
  isNumber || (Regex.readWithin? Regex.Tree.isShallow t).any (! asksForWords ·)

/-- A field with a value or without one; another equals sign and what follows it do not count. -/
structure Field where
  name : Text
  value : Option Text
deriving DecidableEq, Repr

/-- The field that a text is, unless it is empty or its value is not written well. -/
def Field.read? (t : Text) : Option Field :=
  let name := t.takeWhile (· ≠ '=')
  match t.dropWhile (· ≠ '=') with
  | [] => if t = [] then none else some ⟨name, none⟩
  | _ :: rest =>
    let value := rest.takeWhile (· ≠ '=')
    if isFieldValue value then some ⟨name, some value⟩ else none

/-! ## Outlines -/

/-- A stretch of a text, from one position to another; positions are counted in bytes. -/
structure Stretch where
  start : Nat
  stop : Nat
deriving DecidableEq, Repr

/-- What a stretch of a text holds. -/
def Stretch.cut (s : Stretch) (t : Text) : Text :=
  Text.takeBytes (s.stop - s.start) (Text.dropBytes s.start t)

/-- Where what is in brackets stands: the name of a span and a field. -/
structure SpanOutline where
  name : Stretch
  field : Option Stretch
deriving DecidableEq, Repr

/-- Where the parts of a directive stand.  The limit goes on to the end. -/
structure Outline where
  target : Stretch
  span : Option SpanOutline
  limit : Option Nat
deriving DecidableEq, Repr

namespace Outline

/-- Where the limit begins in what follows a span, which ends at a position. -/
def limitBehind? (position : Nat) : Text → Option (Option Nat)
  | [] => some none
  | '=' :: _ => some (some (position + 1))
  | _ => none

/-- What follows the bracket that opens at a position: a span, and where the limit begins. -/
def readSpan? (position : Nat) (t : Text) : Option (SpanOutline × Option Nat) :=
  let name := t.takeWhile fun c => c ≠ ']' && c ≠ '{'
  let start := position + 1
  let stop := start + Text.byteSize name
  match t.dropWhile fun c => c ≠ ']' && c ≠ '{' with
  | ']' :: rest => (limitBehind? (stop + 1) rest).map fun limit => (⟨⟨start, stop⟩, none⟩, limit)
  | '{' :: rest =>
    let fieldStop := stop + 1 + Text.byteSize (rest.takeWhile (· ≠ '}'))
    match rest.dropWhile (· ≠ '}') with
    | '}' :: ']' :: rest =>
      (limitBehind? (fieldStop + 2) rest).map fun limit =>
        (⟨⟨start, stop⟩, some ⟨stop + 1, fieldStop⟩⟩, limit)
    | _ => none
  | _ => none

/-- Whether a directive may start with a character. -/
def canStart (c : Char) : Bool :=
  c == '[' || c == '-' || c == ':' || c == '_' || Unicode.isLetterOrNumber c

/-- The outline of a directive without blanks around it. -/
def read? (t : Text) : Option Outline :=
  let stop := Text.byteSize (t.takeWhile fun c => c ≠ '=' && c ≠ '[')
  if !t.head?.any canStart then none
  else
    match t.dropWhile fun c => c ≠ '=' && c ≠ '[' with
    | [] => some ⟨⟨0, stop⟩, none, none⟩
    | '[' :: rest =>
      (readSpan? stop rest).map fun (span, limit) => ⟨⟨0, stop⟩, some span, limit⟩
    | _ => some ⟨⟨0, stop⟩, none, some (stop + 1)⟩

end Outline

/-! ## Reading directives -/

/-- A text without the blanks around it. -/
def withoutBlanks (t : Text) : Text :=
  ((t.dropWhile Unicode.isBlank).reverse.dropWhile Unicode.isBlank).reverse

/-- The directive for a span.  No event is in a span with a name, and none has its field compared
with a value, so these let nothing through; beside a field an empty name is none. -/
def SpanOutline.read? (s : SpanOutline) (t target : Text) (limit : Limit) :
    Option (Option Directive) :=
  match s.field with
  | none => some none
  | some field =>
    (Field.read? (field.cut t)).map fun field =>
      if s.name.cut t = [] ∧ field.value = none then some ⟨target, some field.name, limit⟩ else none

/-- The directive that a text is, or nothing if it is one that lets no event through.  A text
without a limit and a span is a limit for all targets or else a target for all limits. -/
def readDirective? (t : Text) : Option (Option Directive) := do
  let outline ← Outline.read? (withoutBlanks t)
  let limit ←
    match outline.limit with
    | some position => readGiven? (Text.dropBytes position t)
    | none => some (some .trace)
  match outline.span, outline.limit with
  | some span, _ => span.read? t (outline.target.cut t) limit
  | none, some _ => return some { target := outline.target.cut t, limit := limit }
  | none, none =>
    match readLimit? t with
    | some limit => return some { target := [], limit := limit }
    | none => return some { target := t, limit := limit }

namespace Filter

/-- The filter that a text is: directives between commas, errors only if there are none. -/
def read? (t : Text) : Option Filter :=
  let parts := ((Text.Delimiter.ofText [','] (by decide)).split t).filter (· ≠ [])
  if parts = [] then some (upTo .error)
  else (parts.mapM readDirective?).map fun directives => directives.filterMap id

/-- The filter of a run: the one that was given, if it can be read, or else the one that being
verbose asks for. -/
def ofRun (given : Option Text) (verbosity : Nat) : Filter :=
  (given.bind read?).getD (upTo (.ofVerbosity verbosity))

end Filter
end AnswerKey.Log
