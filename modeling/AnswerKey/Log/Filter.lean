import AnswerKey.Log

/-!
# Log filters

A filter is a list of directives, each of which says how important the events of
some targets must be, all of them or those with some field.  For an event the most
specific of the directives that it meets counts.
-/

namespace AnswerKey.Log

/-- What a directive lets through: nothing, or everything up to a level. -/
abbrev Limit := Option Level

/-- A directive for the targets that begin with a text, and if it names a field for the events that
have it. -/
structure Directive where
  target : Text
  field : Option Text := none
  limit : Limit
deriving DecidableEq, Repr

namespace Directive

/-- Whether a directive is about an event. -/
def isAbout (d : Directive) (e : Event) : Bool :=
  d.target.isPrefixOf e.target.toList && d.field.all e.fieldNames.contains

/-- Whether a directive is less specific than another: with a shorter target, or else without a
field, or else with one that comes before the other's. -/
def isVaguer (d e : Directive) : Bool :=
  if d.target.length = e.target.length then
    match d.field, e.field with
    | _, none => false
    | none, some _ => true
    | some field, some other => field.isBefore other
  else d.target.length < e.target.length

end Directive

/-- The directives of a filter, in the order in which they were given. -/
abbrev Filter := List Directive

/-! ## What a filter lets through -/

namespace Filter

/-- A filter for all targets. -/
def upTo (level : Level) : Filter :=
  [{ target := [], limit := some level }]

/-- Of two directives the more specific one, or else the second. -/
def prefer (d : Option Directive) (e : Directive) : Option Directive :=
  match d with
  | some d => if e.isVaguer d then some d else some e
  | none => some e

/-- The directive that counts for an event. -/
def directive? (f : Filter) (e : Event) : Option Directive :=
  (f.filter fun d => d.isAbout e).foldl prefer none

/-- Whether an event is let through. -/
def shows (f : Filter) (e : Event) : Bool :=
  match (f.directive? e).bind Directive.limit with
  | some limit => e.level.rank ≤ limit.rank
  | none => false

end Filter

end AnswerKey.Log
