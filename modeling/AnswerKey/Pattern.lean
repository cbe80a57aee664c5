import AnswerKey.Options

/-!
# From a pattern to a regular expression

A pattern is a regular expression in which some characters may be given more
room: a space, a semicolon, an escaped pipe, a redirection.  `expand` makes that
room where the options ask for it, escapes the slashes, and anchors the result at
both ends of the text, one newline at the end aside.
-/

namespace AnswerKey.Pattern

/-! ## What is put in -/

/-- One or more spaces and tabs. -/
def someBlanks : Text := "(?:[ \\t]+)".toList

/-- A semicolon or a newline with blanks around it. -/
def spacedSemicolon : Text := "(?:[ \\t]*[;\\n][ \\t]*)".toList

/-- A pipe with blanks around it. -/
def spacedPipe : Text := "(?:[ \\t]*\\|[ \\t]*)".toList

/-- A redirection with blanks around it. -/
def spacedRedirect (symbol : Text) : Text :=
  "(?:[ \\t]*".toList ++ symbol ++ "[ \\t]*)".toList

/-! ## Making room -/

/-- Room for every space. -/
def widenSpaces (t : Text) : Text :=
  t.flatMap fun c => if c = ' ' then someBlanks else [c]

/-- Room around every semicolon. -/
def widenSemicolons (t : Text) : Text :=
  t.flatMap fun c => if c = ';' then spacedSemicolon else [c]

/-- Room around every pipe with a backslash before it, pairs taken from the left. -/
def widenPipes : Text → Text
  | [] => []
  | '\\' :: '|' :: t => spacedPipe ++ widenPipes t
  | c :: t => c :: widenPipes t

/-- Room around every redirection, two signs taken together where they can be. -/
def widenRedirects : Text → Text
  | [] => []
  | '<' :: '<' :: t => spacedRedirect ['<', '<'] ++ widenRedirects t
  | '>' :: '>' :: t => spacedRedirect ['>', '>'] ++ widenRedirects t
  | '<' :: t => spacedRedirect ['<'] ++ widenRedirects t
  | '>' :: t => spacedRedirect ['>'] ++ widenRedirects t
  | c :: t => c :: widenRedirects t

/-! ## Escaping slashes -/

/-- A backslash before every slash that has none, where `escaped` tells whether the text
follows an odd run of backslashes. -/
def escapeSlashesFrom (escaped : Bool) : Text → Text
  | [] => []
  | c :: t =>
    let rest := escapeSlashesFrom (c = '\\' && !escaped) t
    if c = '/' && !escaped then '\\' :: c :: rest else c :: rest

/-- A backslash before every slash that an even run of backslashes precedes. -/
def escapeSlashes (t : Text) : Text :=
  escapeSlashesFrom false t

/-! ## The whole expression -/

/-- The pattern with all the room that the options ask for, its slashes escaped. -/
def body (o : Options) (pattern : Text) : Text :=
  let t := if o.wideSpaces then widenSpaces pattern else pattern
  let t := if o.widePipes then widenPipes (widenSemicolons t) else t
  let t := if o.wideRedirects then widenRedirects t else t
  escapeSlashes t

/-- The flags that the options put before the expression. -/
def flags (o : Options) : Text :=
  match o.ignoreCase, o.dotAll with
  | false, false => []
  | true, false => "(?i)".toList
  | false, true => "(?s)".toList
  | true, true => "(?is)".toList

/-- The regular expression for a pattern, anchored to the whole text. -/
def expand (o : Options) (pattern : Text) : Text :=
  flags o ++ "^(?:".toList ++ body o pattern ++ ")\\n?$".toList

end AnswerKey.Pattern
