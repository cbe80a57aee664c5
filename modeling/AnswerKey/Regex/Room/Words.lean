import AnswerKey.Regex.Room

/-!
# The room for words

A choice of words is read letter by letter, and words that begin alike share states as long as no
word ends between them: the words before an end are tried before it, those behind it afterwards.
-/

namespace AnswerKey.Regex.Words

/-- A letter of a word; here letters are bytes. -/
abbrev Word := List Nat

/-- The words in lists of those with the same first letter, without that letter. -/
def byFirst (words : List Word) : List (List Word) :=
  ((words.mergeSort fun v w => v.headD 0 ≤ w.headD 0).splitBy fun v w => v.head? == w.head?).map
    (List.map List.tail)

/-- The words in runs without an empty one, where empty words divide. -/
def runs (words : List Word) : List (List Word) :=
  (words.splitBy fun v w => v.isEmpty == w.isEmpty).filter fun run => run.any (! ·.isEmpty)

/-- How often one of some words ends at their start; before all others it counts once. -/
def ends (words : List Word) : Nat :=
  min 1 (words.takeWhile List.isEmpty).length +
    (words.dropWhile List.isEmpty).countP List.isEmpty

/-- Room with that for words of at most `depth` letters.  Each run has a state that reads its
first letter, and a fork leads to the runs and to the end. -/
def addWords : (depth : Nat) → List Word → Room → Room
  | 0, _, r => r
  | depth + 1, words, r =>
    match runs words with
    | [] => r
    | runs =>
      let r := runs.foldl (fun r run =>
        let rests := byFirst run
        let r := rests.foldl (fun r rest => addWords depth rest r) r
        if rests.length = 1 then r.addStates 1 else r.addReader rests.length) r
      r.addFork (runs.length + ends words)

/-- The room for a choice of words. -/
def room (words : List Word) : Room :=
  addWords ((words.map List.length).foldl max 0) words { states := 1 }

end AnswerKey.Regex.Words
