import AnswerKey.Text
import AnswerKey.Unicode.Age
import AnswerKey.Unicode.Break
import AnswerKey.Unicode.Category
import AnswerKey.Unicode.Script
import AnswerKey.Unicode.Trait

/-!
# Properties of characters by name

A property is chosen by name: a trait, a category or a script by its own name, and a value of
one of the other kinds by the name of the kind and its own.  Case, blanks, dashes, underscores and
an `is` in front make no difference to a name.
-/

namespace AnswerKey.Unicode

/-- The kinds of properties. -/
inductive PropertyKind where
  | trait | category | script | extendedScript | age | grapheme | word | sentence
deriving DecidableEq, Repr, Hashable

/-- A property: a kind, and the place of the value among those of the kind. -/
structure Property where
  kind : PropertyKind
  index : Nat
deriving DecidableEq, Repr, Hashable

namespace PropertyKind

/-- The traits, in a table. -/
def traits : Array NamedClass := Trait.all.toArray

/-- The categories, in a table. -/
def categories : Array NamedClass := Category.all.toArray

/-- The scripts, in a table. -/
def scripts : Array NamedClass :=
  (Script.all.map fun s => ⟨s.names, s.own⟩).toArray

/-- The scripts with the characters that they share, in a table. -/
def extendedScripts : Array NamedClass :=
  (Script.all.map fun s => ⟨s.names, s.extended⟩).toArray

/-- The ages, in a table. -/
def ages : Array NamedClass := Age.all.toArray

/-- The classes of characters as they are seen, in a table. -/
def graphemes : Array NamedClass := Break.graphemes.toArray

/-- The classes for words, in a table. -/
def words : Array NamedClass := Break.words.toArray

/-- The classes for sentences, in a table. -/
def sentences : Array NamedClass := Break.sentences.toArray

/-- The values of a kind. -/
def classes : PropertyKind → Array NamedClass
  | trait => traits
  | category => categories
  | script => scripts
  | extendedScript => extendedScripts
  | age => ages
  | grapheme => graphemes
  | word => words
  | sentence => sentences

/-- The kinds whose values are named together with the kind, each with its names. -/
def named : List (PropertyKind × List String) :=
  [(category, ["gc", "generalcategory"]),
   (script, ["sc", "script"]),
   (extendedScript, ["scx", "scriptextensions"]),
   (age, ["age"]),
   (grapheme, ["gcb", "graphemeclusterbreak"]),
   (word, ["wb", "wordbreak"]),
   (sentence, ["sb", "sentencebreak"])]

/-- The kind with a given name. -/
def named? (name : String) : Option PropertyKind :=
  named.findSome? fun (kind, names) => if names.contains name then some kind else none

/-- The value of a kind with a given name. -/
def value? (kind : PropertyKind) (name : String) : Option Property :=
  (kind.classes.findIdx? fun c => c.names.contains name).map fun index => ⟨kind, index⟩

end PropertyKind

namespace Property

/-- The code points with a property. -/
def ranges (p : Property) : Ranges :=
  match p.kind.classes[p.index]? with
  | some c => c.ranges
  | none => []

/-- A name in the form in which tables have it: in small letters, without blanks, dashes and
underscores, and with ASCII characters only. -/
def plainName (name : Text) : Text :=
  (name.filter fun c => c.toNat < 128 && c ≠ ' ' && c ≠ '_' && c ≠ '-').map Char.toLower

/-- The name that tables have for a name as it was written.  An `is` in front is dropped, unless
only a `c` is left behind it. -/
def tableName (name : Text) : String :=
  match name with
  | i :: s :: rest =>
    if i.toLower = 'i' ∧ s.toLower = 's' ∧ plainName rest ≠ ['c'] then String.ofList (plainName rest)
    else String.ofList (plainName name)
  | _ => String.ofList (plainName name)

/-- The short names of categories that traits or kinds have too; the category is meant. -/
def ambiguous : List String := ["cf", "lc", "sc"]

/-- The property with a name of its own: a trait, a category or a script, in this order. -/
def named? (name : Text) : Option Property :=
  let name := tableName name
  (if ambiguous.contains name then none else PropertyKind.trait.value? name).or
    ((PropertyKind.category.value? name).or (PropertyKind.script.value? name))

/-- The property that is a value of a kind, both given by name. -/
def valued? (kind value : Text) : Option Property :=
  (PropertyKind.named? (tableName kind)).bind fun kind => kind.value? (tableName value)

end Property
end AnswerKey.Unicode
