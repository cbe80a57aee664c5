import AnswerKey.Key.Reader
import AnswerKey.Pattern
import AnswerKey.Regex.Reader
import AnswerKey.Regex.Search
import AnswerKey.Scoring.Assignment

/-!
# Scoring an answer

A block scores an answer in one of two ways.  As a rule its first pattern decides.
If its patterns may come in any order, the answer is divided into lines, each
pattern takes a line, and missing and superfluous lines cost points.
-/

namespace AnswerKey

/-- What an answer scores: points awarded out of those possible. -/
structure Score where
  awarded : Nat
  possible : Nat
deriving DecidableEq, Repr

namespace Score

/-- No point out of one. -/
def nothing : Score := ⟨0, 1⟩

/-- All or nothing. -/
def ofBool (correct : Bool) : Score :=
  if correct then ⟨1, 1⟩ else nothing

/-- The score as a fraction. -/
def fraction (s : Score) : Float :=
  s.awarded.toFloat / s.possible.toFloat

end Score

namespace Scoring

/-- The regular expression that a pattern stands for, if it is one. -/
def compile? (o : Options) (pattern : Text) : Option Regex :=
  Regex.read? (Pattern.expand o pattern)

/-- Whether a compiled pattern accepts a text; one that is no expression accepts none. -/
def accepts (pattern : Option Regex) (t : Text) : Bool :=
  pattern.any fun r => r.isMatch t

/-- A text as the options would have it, without padding or as it is. -/
def prepare (o : Options) (t : Text) : Text :=
  if o.trimAnswer then Text.trim t else t

/-- The pieces between the separators of a text; an empty separator divides nothing. -/
def splitAnswer (separator t : Text) : List Text :=
  if h : separator = [] then [t] else (Text.Delimiter.ofText separator h).split t

/-- The lines of an answer. -/
def answerLines (o : Options) (separator answer : Text) : List Text :=
  (splitAnswer separator (prepare o answer)).map (prepare o)

/-- The points for `lines` lines of which `taken` were taken, where there are `patterns`
patterns.  A missing line costs a point, and so does a line that was not taken; but as many of
those as there are lines too many are charged for once only. -/
def points (patterns lines taken : Nat) : Int :=
  let missing : Int := patterns - lines
  let untaken : Int := lines - taken
  max 0 (patterns - missing.natAbs - (untaken - max 0 (-missing)))

/-- The score where the first pattern decides. -/
def scoreSingle (b : Block) (answer : Text) : Score :=
  match b.patterns with
  | [] => .nothing
  | pattern :: _ =>
    .ofBool (accepts (compile? b.options pattern) (prepare b.options answer))

/-- The score where the patterns may come in any order. -/
def scoreAnyOrder (b : Block) (separator answer : Text) : Score :=
  if b.patterns = [] then .nothing
  else
    let lines := answerLines b.options separator answer
    let taken := takenCount accepts lines (b.patterns.map (compile? b.options))
    ⟨(points b.patterns.length lines.length taken).toNat, b.patterns.length⟩

/-- The score of an answer under a block. -/
def score (b : Block) (separator answer : Text) : Score :=
  if b.options.anyOrder then scoreAnyOrder b separator answer else scoreSingle b answer

/-- The score under one of the blocks of a key, nothing if there is no such block. -/
def scoreAt (k : Key) (index : Nat) (answer : Text) : Score :=
  match k.blocks[index]? with
  | some b => score b k.settings.separator answer
  | none => .nothing

/-- The patterns that are consulted when an answer is scored. -/
def consulted (b : Block) : List Text :=
  if b.options.anyOrder then b.patterns else b.patterns.take 1

end Scoring
end AnswerKey
