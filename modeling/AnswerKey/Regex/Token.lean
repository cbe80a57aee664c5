import AnswerKey.Number.Literal
import AnswerKey.Regex
import AnswerKey.Unicode.Letter

/-!
# Tokens of a regular expression

A token is what can be read without knowing the groups around it.  Inside brackets other tokens
stand than outside, so reading keeps count of the open brackets; and where an
expression is spread out, blanks and comments between signs mean nothing, so reading also keeps
in mind in which groups that is so.  A text that has no reading is no expression.
-/

namespace AnswerKey.Regex

/-- The classes with a letter of their own. -/
inductive LetterClass where
  | digit | blank | word
deriving DecidableEq, Repr

/-- What stands for one character, or for a range or class of them. -/
inductive Item where
  | literal (c : Char)
  /-- A character that is given by two hexadecimal digits, as bytes are. -/
  | byte (c : Char)
  | range (low high : Char)
  | letterClass (k : LetterClass) (negated : Bool)
  | asciiClass (k : AsciiClass) (negated : Bool)
  | property (p : Unicode.Property) (negated : Bool)
deriving DecidableEq, Repr

/-- The flags that can be set inside an expression. -/
inductive Flag where
  | ignoreCase | multiLine | dotAll
  /-- Repetitions prefer fewer rounds where they would prefer more, and the reverse. -/
  | swapGreed
  /-- Classes and words are those of Unicode. -/
  | unicode
  /-- Carriage returns divide lines too. -/
  | anyNewline
  /-- Blanks and comments mean nothing. -/
  | verbose
deriving DecidableEq, Repr

/-- Flags to be turned on or off, in order. -/
abbrev FlagChanges := List (Flag × Bool)

/-- What becomes of a flag. -/
def FlagChanges.apply (changes : FlagChanges) (f : Flag) (on : Bool) : Bool :=
  changes.foldl (fun on change => if change.1 = f then change.2 else on) on

/-- How two sets inside brackets are joined. -/
inductive SetOperator where
  | inter | diff | symmDiff
deriving DecidableEq, Repr

/-- A token. -/
inductive Token where
  /-- A character or a class. -/
  | item (i : Item)
  | dot | caret | dollar
  | textStart | textEnd
  | word (e : WordEdge)
  /-- An opening parenthesis, with the name of the group if it has one. -/
  | captureOpen (name : Option Text)
  /-- An opening parenthesis of a group that only sets flags for its inside. -/
  | groupOpen (changes : FlagChanges)
  /-- Flags for the rest of the group. -/
  | flags (changes : FlagChanges)
  | groupClose
  | bar
  /-- A repetition of what precedes, which prefers fewer rounds if it is lazy. -/
  | repetition (least : Nat) (most : Option Nat) (isLazy : Bool)
  /-- An opening bracket, with the characters that can only stand right behind it. -/
  | setOpen (negated : Bool) (first : Text)
  | setOperator (o : SetOperator)
  | setClose
deriving DecidableEq, Repr

/-! ## Blanks and comments -/

/-- The longest run of characters with a property, and what follows it.  If the expression is
spread out, blanks and comments are left out, before the rest too; `inComment` tells whether the
text begins inside a comment. -/
def spanSpread (verbose inComment : Bool) (p : Char → Bool) : Text → Text × Text
  | [] => ([], [])
  | c :: t =>
    if inComment then spanSpread verbose (c ≠ '\n') p t
    else if verbose && Unicode.isBlank c then spanSpread verbose false p t
    else if verbose && c == '#' then spanSpread verbose true p t
    else if p c then
      let (run, rest) := spanSpread verbose false p t
      (c :: run, rest)
    else ([], c :: t)

/-- The text from its first sign that means something. -/
def skipSpread (verbose : Bool) (t : Text) : Text :=
  (spanSpread verbose false (fun _ => false) t).2

/-- The sign that decides whether a dash makes a range; in an expression that is spread out it is
looked for behind blanks and one comment sign. -/
def nextSign (verbose : Bool) (t : Text) : Option Char :=
  if verbose then
    match t.dropWhile Unicode.isBlank with
    | '#' :: rest => (rest.dropWhile Unicode.isBlank).head?
    | rest => rest.head?
  else t.head?

/-! ## Characters and escapes -/

/-- The character with a code point, if it is one. -/
def charOfNat? (n : Nat) : Option Char :=
  if n.isValidChar then some (Char.ofNat n) else none

/-- Whether a character is a hexadecimal digit. -/
def isHexDigit (c : Char) : Bool :=
  c.isDigit || ('a' ≤ c && c ≤ 'f') || ('A' ≤ c && c ≤ 'F')

/-- The value of a hexadecimal digit. -/
def hexDigitValue (c : Char) : Nat :=
  if c.isDigit then c.toNat - '0'.toNat
  else if 'a' ≤ c then c.toNat - 'a'.toNat + 10
  else c.toNat - 'A'.toNat + 10

/-- The number that a run of hexadecimal digits stands for. -/
def hexValue (digits : Text) : Nat :=
  digits.foldl (fun n c => 16 * n + hexDigitValue c) 0

/-- A number of hexadecimal digits. -/
def readHexDigits? (verbose : Bool) : Nat → Text → Option (Text × Text)
  | 0, t => some ([], t)
  | count + 1, t =>
    match skipSpread verbose t with
    | [] => none
    | c :: rest =>
      if isHexDigit c then
        (readHexDigits? verbose count rest).map fun (digits, rest) => (c :: digits, rest)
      else none

/-- A code point in hexadecimal: `count` digits, or any number of them in braces.  Two digits
without braces give a byte. -/
def readHex? (verbose : Bool) (count : Nat) (t : Text) : Option (Item × Text) :=
  match skipSpread verbose t with
  | '{' :: rest =>
    match spanSpread verbose false isHexDigit rest with
    | (digits, '}' :: rest) =>
      if digits = [] then none else (charOfNat? (hexValue digits)).map fun c => (.literal c, rest)
    | _ => none
  | t =>
    match readHexDigits? verbose count t with
    | none => none
    | some (digits, rest) =>
      (charOfNat? (hexValue digits)).map fun c =>
        (if count = 2 then .byte c else .literal c, rest)

/-- The parts of a text before and behind the first occurrence of some signs, if there is one. -/
def cutAt? (signs : Text) : Text → Option (Text × Text)
  | [] => none
  | c :: t =>
    match Text.after? signs (c :: t) with
    | some rest => some ([], rest)
    | none => (cutAt? signs t).map fun (before, rest) => (c :: before, rest)

/-- A property as it is named in braces: by its own name, or by a kind and a value with a colon or
an equals sign between, or with both signs of an inequality if all other characters are meant. -/
def readPropertyName? (negated : Bool) (name : Text) : Option Item :=
  match cutAt? ['!', '='] name with
  | some (kind, value) => (Unicode.Property.valued? kind value).map fun p => .property p !negated
  | none =>
    match (cutAt? [':'] name).or (cutAt? ['='] name) with
    | some (kind, value) => (Unicode.Property.valued? kind value).map fun p => .property p negated
    | none => (Unicode.Property.named? name).map fun p => .property p negated

/-- A property behind its letter: a name in braces or of one character. -/
def readProperty? (verbose negated : Bool) (t : Text) : Option (Item × Text) :=
  match skipSpread verbose t with
  | [] => none
  | '{' :: rest =>
    match spanSpread verbose false (· ≠ '}') rest with
    | (name, '}' :: rest) => (readPropertyName? negated name).map fun i => (i, rest)
    | _ => none
  | c :: rest => (Unicode.Property.named? [c]).map fun p => (.property p negated, rest)

/-- Whether a character may stand in the name of an edge of words. -/
def isEdgeLetter (c : Char) : Bool :=
  c.isAlpha || c == '-'

/-- The edge of words with a given name. -/
def WordEdge.named? (name : Text) : Option WordEdge :=
  if name = "start".toList then some .start
  else if name = "end".toList then some .finish
  else if name = "start-half".toList then some .startHalf
  else if name = "end-half".toList then some .finishHalf
  else none

/-- What follows the letter of a word's edge: nothing of it, or in braces which edge is meant.
Braces that begin with anything but a letter or a dash are left alone. -/
def readEdge? (verbose : Bool) (t : Text) : Option (WordEdge × Text) :=
  match t with
  | '{' :: rest =>
    match skipSpread verbose rest with
    | [] => none
    | c :: _ =>
      if isEdgeLetter c then
        match spanSpread verbose false isEdgeLetter rest with
        | (name, '}' :: rest) => (WordEdge.named? name).map fun e => (e, rest)
        | _ => none
      else some (.boundary, t)
  | _ => some (.boundary, t)

/-- What an escape stands for. -/
inductive Escape where
  | item (i : Item)
  | textStart | textEnd
  | word (e : WordEdge)
deriving DecidableEq, Repr

/-- An escape outside brackets. -/
def Escape.token : Escape → Token
  | item i => .item i
  | textStart => .textStart
  | textEnd => .textEnd
  | word e => .word e

/-- Whether a backslash before the character makes a literal of it: ASCII characters other than
letters, digits and the signs of a word's ends. -/
def isEscapable (c : Char) : Bool :=
  c.toNat < 128 && !c.isAlphanum && c != '<' && c != '>'

/-- An item and what follows it, as an escape. -/
def Escape.ofItem (read : Item × Text) : Escape × Text :=
  (.item read.1, read.2)

/-- What the text behind a backslash stands for. -/
def readEscape? (verbose : Bool) (t : Text) : Option (Escape × Text) :=
  match t with
  | [] => none
  | 'x' :: rest => (readHex? verbose 2 rest).map Escape.ofItem
  | 'u' :: rest => (readHex? verbose 4 rest).map Escape.ofItem
  | 'U' :: rest => (readHex? verbose 8 rest).map Escape.ofItem
  | 'p' :: rest => (readProperty? verbose false rest).map Escape.ofItem
  | 'P' :: rest => (readProperty? verbose true rest).map Escape.ofItem
  | 'd' :: rest => some (.item (.letterClass .digit false), rest)
  | 'D' :: rest => some (.item (.letterClass .digit true), rest)
  | 's' :: rest => some (.item (.letterClass .blank false), rest)
  | 'S' :: rest => some (.item (.letterClass .blank true), rest)
  | 'w' :: rest => some (.item (.letterClass .word false), rest)
  | 'W' :: rest => some (.item (.letterClass .word true), rest)
  | 'a' :: rest => some (.item (.literal '\x07'), rest)
  | 'f' :: rest => some (.item (.literal '\x0c'), rest)
  | 't' :: rest => some (.item (.literal '\t'), rest)
  | 'n' :: rest => some (.item (.literal '\n'), rest)
  | 'r' :: rest => some (.item (.literal '\r'), rest)
  | 'v' :: rest => some (.item (.literal '\x0b'), rest)
  | 'A' :: rest => some (.textStart, rest)
  | 'z' :: rest => some (.textEnd, rest)
  | 'b' :: rest => (readEdge? verbose rest).map fun (e, rest) => (.word e, rest)
  | 'B' :: rest => some (.word .within, rest)
  | '<' :: rest => some (.word .start, rest)
  | '>' :: rest => some (.word .finish, rest)
  | c :: rest => if isEscapable c then some (.item (.literal c), rest) else none

/-! ## Groups and repetitions -/

/-- The flag with a given letter. -/
def Flag.ofChar? : Char → Option Flag
  | 'i' => some .ignoreCase
  | 'm' => some .multiLine
  | 's' => some .dotAll
  | 'U' => some .swapGreed
  | 'u' => some .unicode
  | 'R' => some .anyNewline
  | 'x' => some .verbose
  | _ => none

/-- Flag letters up to a colon or a closing parenthesis, which is handed out too.  Letters behind
a dash turn flags off; no flag stands twice, and a dash is not the last sign. -/
def readFlags? (off : Bool) (changes : FlagChanges) : Text → Option (FlagChanges × Char × Text)
  | [] => none
  | c :: t =>
    if c = ':' ∨ c = ')' then some (changes, c, t)
    else if c = '-' then
      if off ∨ t.head? = some ':' ∨ t.head? = some ')' then none else readFlags? true changes t
    else
      match Flag.ofChar? c with
      | none => none
      | some f =>
        if changes.any fun change => change.1 == f then none
        else readFlags? off (changes ++ [(f, !off)]) t

/-- Whether a group's name may begin with a character. -/
def isNameStart (c : Char) : Bool :=
  c == '_' || Unicode.isLetter c

/-- Whether a group's name may go on with a character. -/
def isNamePart (c : Char) : Bool :=
  c == '_' || c == '.' || c == '[' || c == ']' || Unicode.isLetterOrNumber c

/-- The name of a group up to its closing sign. -/
def readGroupName? (t : Text) : Option (Text × Text) :=
  match t with
  | [] => none
  | c :: rest =>
    if isNameStart c then
      match rest.dropWhile isNamePart with
      | '>' :: after => some (c :: rest.takeWhile isNamePart, after)
      | _ => none
    else none

/-- What the text behind an opening parenthesis opens, or which flags it sets. -/
def readGroup? (verbose : Bool) (t : Text) : Option (Token × Text) :=
  match skipSpread verbose t with
  | '?' :: 'P' :: '<' :: rest =>
    (readGroupName? rest).map fun (name, rest) => (.captureOpen (some name), rest)
  | '?' :: '<' :: rest =>
    (readGroupName? rest).map fun (name, rest) => (.captureOpen (some name), rest)
  | '?' :: rest =>
    match readFlags? false [] rest with
    | none => none
    | some (changes, sign, rest) =>
      if sign = ':' then some (.groupOpen changes, rest)
      else if changes = [] then none
      else some (.flags changes, rest)
  | t => some (.captureOpen none, t)

/-- A repetition and what follows it, the sign aside that makes it lazy. -/
def repetition (least : Nat) (most : Option Nat) : Text → Token × Text
  | '?' :: rest => (.repetition least most true, rest)
  | t => (.repetition least most false, t)

/-- The largest number of rounds that can be written. -/
def mostRounds : Nat := 4294967295

/-- A number of rounds, blanks around it aside. -/
def readRounds? (verbose : Bool) (t : Text) : Option (Nat × Text) :=
  let (digits, rest) :=
    spanSpread verbose false Char.isDigit ((skipSpread verbose t).dropWhile Unicode.isBlank)
  let rounds := Number.digitsValue digits
  if digits = [] ∨ mostRounds < rounds then none else some (rounds, rest.dropWhile Unicode.isBlank)

/-- The repetition that the text behind an opening brace asks for. -/
def readRepetition? (verbose : Bool) (t : Text) : Option (Token × Text) :=
  match readRounds? verbose t with
  | some (least, '}' :: rest) => some (repetition least (some least) (skipSpread verbose rest))
  | some (least, ',' :: rest) =>
    match skipSpread verbose rest with
    | '}' :: rest => some (repetition least none (skipSpread verbose rest))
    | rest =>
      match readRounds? verbose rest with
      | some (most, '}' :: rest) =>
        if least ≤ most then some (repetition least (some most) (skipSpread verbose rest)) else none
      | _ => none
  | _ => none

/-! ## Brackets -/

/-- The bracket whose members the text begins with: dashes right at the start are literal, and so
is a closing bracket that stands first. -/
def readSetStart? (verbose negated : Bool) (t : Text) : Option (Token × Text) :=
  match spanSpread verbose false (· == '-') t with
  | (_, []) => none
  | ([], ']' :: rest) => some (.setOpen negated [']'], rest)
  | (dashes, rest) => some (.setOpen negated dashes, rest)

/-- The bracket that the text behind its sign opens. -/
def readSetOpen? (verbose : Bool) (t : Text) : Option (Token × Text) :=
  match skipSpread verbose t with
  | '^' :: rest => readSetStart? verbose true rest
  | rest => readSetStart? verbose false rest

/-- A class whose name the text begins with, up to its colon and bracket. -/
def readAsciiName? (negated : Bool) (t : Text) : Option (Item × Text) :=
  AsciiClass.all.findSome? fun k =>
    (Text.after? (k.name ++ [':', ']']) t).map fun rest => (.asciiClass k negated, rest)

/-- A class in brackets and colons, where the text begins with one. -/
def readAsciiClass? (t : Text) : Option (Item × Text) :=
  match t with
  | '[' :: ':' :: '^' :: rest => readAsciiName? true rest
  | '[' :: ':' :: rest => readAsciiName? false rest
  | _ => none

/-- A character or a class inside brackets. -/
def readMember? (verbose : Bool) (t : Text) : Option (Item × Text) :=
  match t with
  | [] => none
  | '\\' :: rest =>
    match readEscape? verbose rest with
    | some (.item i, rest) => some (i, rest)
    | _ => none
  | c :: rest => some (.literal c, rest)

/-- The character that an item is, if it is a single one. -/
def Item.char? : Item → Option Char
  | literal c => some c
  | byte c => some c
  | _ => none

/-- The range from a character to the one that stands behind a dash. -/
def readRangeEnd? (verbose : Bool) (first : Item) (t : Text) : Option (Item × Text) :=
  match readMember? verbose (skipSpread verbose t) with
  | none => none
  | some (last, rest) =>
    match first.char?, last.char? with
    | some low, some high => if low ≤ high then some (.range low high, rest) else none
    | _, _ => none

/-- A member of a bracket: a character, a class, or a range between two characters.  A dash is a
member of its own before the closing bracket, and two dashes are an operator. -/
def readRange? (verbose : Bool) (t : Text) : Option (Item × Text) :=
  match readMember? verbose t with
  | none => none
  | some (first, rest) =>
    match skipSpread verbose rest with
    | '-' :: after =>
      let next := nextSign verbose after
      if next = some ']' ∨ next = some '-' then some (first, '-' :: after)
      else readRangeEnd? verbose first after
    | rest => some (first, rest)

/-! ## The tokens of a text -/

/-- The token that a text begins with, inside brackets. -/
def readInside? (verbose : Bool) (t : Text) : Option (Token × Text) :=
  match t with
  | '[' :: rest =>
    match readAsciiClass? t with
    | some (i, rest) => some (.item i, rest)
    | none => readSetOpen? verbose rest
  | ']' :: rest => some (.setClose, rest)
  | '&' :: '&' :: rest => some (.setOperator .inter, rest)
  | '-' :: '-' :: rest => some (.setOperator .diff, rest)
  | '~' :: '~' :: rest => some (.setOperator .symmDiff, rest)
  | _ => (readRange? verbose t).map fun (i, rest) => (.item i, rest)

/-- The token that a text begins with, outside brackets. -/
def readOutside? (verbose : Bool) (t : Text) : Option (Token × Text) :=
  match t with
  | [] => none
  | '(' :: rest => readGroup? verbose rest
  | ')' :: rest => some (.groupClose, rest)
  | '|' :: rest => some (.bar, rest)
  | '[' :: rest => readSetOpen? verbose rest
  | '?' :: rest => some (repetition 0 (some 1) rest)
  | '*' :: rest => some (repetition 0 none rest)
  | '+' :: rest => some (repetition 1 none rest)
  | '{' :: rest => readRepetition? verbose rest
  | '.' :: rest => some (.dot, rest)
  | '^' :: rest => some (.caret, rest)
  | '$' :: rest => some (.dollar, rest)
  | '\\' :: rest =>
    (readEscape? verbose rest).map fun (e, rest) => (e.token, rest)
  | c :: rest => some (.item (.literal c), rest)

/-- What reading keeps in mind from token to token: how many brackets are open, whether the
expression is spread out here, and whether it is in the groups around, innermost first. -/
structure Surroundings where
  depth : Nat := 0
  verbose : Bool := false
  outer : List Bool := []
deriving DecidableEq, Repr

namespace Surroundings

/-- The surroundings behind a token. -/
def after (s : Surroundings) : Token → Surroundings
  | .setOpen .. => { s with depth := s.depth + 1 }
  | .setClose => { s with depth := s.depth - 1 }
  | .captureOpen _ => { s with outer := s.verbose :: s.outer }
  | .groupOpen changes =>
    { s with verbose := changes.apply .verbose s.verbose, outer := s.verbose :: s.outer }
  | .flags changes => { s with verbose := changes.apply .verbose s.verbose }
  | .groupClose => { s with verbose := s.outer.headD false, outer := s.outer.tail }
  | _ => s

/-- The token that a text begins with. -/
def readToken? (s : Surroundings) (t : Text) : Option (Token × Text) :=
  if s.depth = 0 then readOutside? s.verbose t else readInside? s.verbose t

end Surroundings

/-- All tokens of a text in its surroundings, at most `budget` of them; no bracket may be left
open. -/
def readTokensWithin? (budget : Nat) (s : Surroundings) (t : Text) : Option (List Token) :=
  match skipSpread s.verbose t, budget with
  | [], _ => if s.depth = 0 then some [] else none
  | _, 0 => none
  | t, budget + 1 =>
    match s.readToken? t with
    | none => none
    | some (token, rest) => (readTokensWithin? budget (s.after token) rest).map (token :: ·)

/-- All tokens of a text.  Each takes a character, so there are no more of them than characters. -/
def readTokens? (t : Text) : Option (List Token) :=
  readTokensWithin? t.length {} t

end AnswerKey.Regex
