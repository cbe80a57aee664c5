import AnswerKey.Unicode.Trait

/-!
# Where texts can be divided

The classes of characters by which a text is divided into what a reader sees as one character,
into words and into sentences.
-/

namespace AnswerKey.Unicode.Break

open Category

/-! ## Characters as they are seen -/

/-- The syllables of Korean with no final consonant: the first of every twenty-eight. -/
def hangulOpen : Ranges :=
  (List.range 399).map fun i => (0xac00 + 28 * i, 0xac00 + 28 * i)

/-- The syllables of Korean. -/
def hangul : Ranges := [(0xac00, 0xd7a3)]

/-- Characters that attach to the one before, tones of skin among them. -/
def extend : Ranges :=
  Ranges.union Trait.graphemeExtend Trait.emojiModifier

/-- Characters that attach to the one behind. -/
def prepend : Ranges :=
  Ranges.ofLines
    ["600-605 6dd 70f 890-891 8e2 d4e 110bd 110cd 111c2-111c3 113d1 1193f 11941 11a3a",
     "11a84-11a89 11d46 11f02"]

/-- Marks with room of their own that do not attach to the one before. -/
def detachedMarks : Ranges :=
  Ranges.ofLines
    ["102b-102c 1038 1062-1064 1067-106d 1083 1087-108c 108f 109a-109c 1a61 1a63-1a64 aa7b aa7d",
     "11720-11721"]

/-- Marks with room of their own that attach to the one before. -/
def spacing : Ranges :=
  Ranges.union (Ranges.diff spacingMark (Ranges.union Trait.graphemeExtend detachedMarks))
    (Ranges.ofLine "e33 eb3")

/-- Controls: they attach to nothing. -/
def controls : Ranges :=
  Ranges.diff
    (Ranges.unions
      [control, format, lineSeparator, paragraphSeparator,
       Ranges.inter unassigned Trait.defaultIgnorable])
    (Ranges.unions [Ranges.ofLine "a d 200c-200d", Trait.prependedConcatenationMark, extend])

/-- The classes by which a text is divided into what is seen as one character. -/
def graphemes : List NamedClass :=
  [⟨["cr"], [(0xd, 0xd)]⟩,
   ⟨["lf"], [(0xa, 0xa)]⟩,
   ⟨["cn", "control"], controls⟩,
   ⟨["ex", "extend"], extend⟩,
   ⟨["pp", "prepend"], prepend⟩,
   ⟨["sm", "spacingmark"], spacing⟩,
   ⟨["l"], Ranges.ofLine "1100-115f a960-a97c"⟩,
   ⟨["v"], Ranges.ofLine "1160-11a7 d7b0-d7c6 16d63 16d67-16d6a"⟩,
   ⟨["t"], Ranges.ofLine "11a8-11ff d7cb-d7fb"⟩,
   ⟨["lv"], hangulOpen⟩,
   ⟨["lvt"], Ranges.diff hangul hangulOpen⟩,
   ⟨["zwj"], [(0x200d, 0x200d)]⟩,
   ⟨["ri", "regionalindicator"], Trait.regionalIndicator⟩]

/-! ## Words and sentences -/

/-- Characters that belong to the word before. -/
def wordExtend : Ranges :=
  Ranges.union extend spacingMark

/-- Letters that are not taken for letters of a word: those of scripts without blanks, and those
with a class of their own. -/
def unbrokenScripts : Ranges :=
  Ranges.ofLines
    ["5d0-5ea 5ef-5f2 e01-e30 e32-e33 e40-e46 e81-e82 e84 e86-e8a e8c-ea3 ea5 ea7-eb0 eb2-eb3",
     "ebd ec0-ec4 ec6 edc-edf 1000-102a 103f 1050-1055 105a-105d 1061 1065-1066 106e-1070",
     "1075-1081 108e 1780-17b3 17d7 17dc 1950-196d 1970-1974 1980-19ab 19b0-19c9 1a20-1a54 1aa7",
     "3031-3035 3041-3096 309d-309f 30a1-30fa 30fc-30ff 31f0-31ff a9e0-a9e4 a9e6-a9ef a9fa-a9fe",
     "aa60-aa76 aa7a aa7e-aaaf aab1 aab5-aab6 aab9-aabd aac0 aac2 aadb-aadd fb1d fb1f-fb28",
     "fb2a-fb36 fb38-fb3c fb3e fb40-fb41 fb43-fb44 fb46-fb4f ff66-ff9d 11700-1171a 11740-11746",
     "1aff0-1aff3 1aff5-1affb 1affd-1affe 1b000-1b122 1b132 1b150-1b152 1b155 1b164-1b167"]

/-- Characters that are taken for letters of a word without being alphabetic. -/
def wordLetterExtras : Ranges :=
  Ranges.ofLines
    ["2c2-2c5 2d2-2d7 2de-2df 2e5-2eb 2ed 2ef-2ff 55a-55c 55e 58a 5f3 70f a708-a716 a720-a721",
     "a789-a78a ab5b"]

/-- Letters of words. -/
def wordLetter : Ranges :=
  Ranges.union
    (Ranges.diff Trait.alphabetic (Ranges.unions [Trait.ideographic, wordExtend, unbrokenScripts]))
    wordLetterExtras

/-- Format characters that divide nothing. -/
def formats : Ranges :=
  Ranges.diff format
    (Ranges.unions
      [Ranges.ofLine "200c-200d", Trait.prependedConcatenationMark, Trait.graphemeExtend])

/-- Digits and the marks before them. -/
def numeric : Ranges :=
  Ranges.unions
    [decimalNumber, Ranges.ofLine "66b 19da",
     Ranges.diff Trait.prependedConcatenationMark (Ranges.ofLine "70f")]

/-- Signs at which a sentence may end, a digit or a small letter behind them notwithstanding. -/
def ambiguousTerminal : Ranges :=
  Ranges.ofLine "2e 2024 fe52 ff0e"

/-- The classes by which a text is divided into words. -/
def words : List NamedClass :=
  [⟨["le", "aletter"], wordLetter⟩,
   ⟨["cr"], [(0xd, 0xd)]⟩,
   ⟨["dq", "doublequote"], [(0x22, 0x22)]⟩,
   ⟨["extend"], wordExtend⟩,
   ⟨["ex", "extendnumlet"], Ranges.ofLine "5f 202f 203f-2040 2054 fe33-fe34 fe4d-fe4f ff3f"⟩,
   ⟨["fo", "format"], Ranges.diff formats (Ranges.ofLine "200b")⟩,
   ⟨["hl", "hebrewletter"],
    Ranges.ofLines
      ["5d0-5ea 5ef-5f2 fb1d fb1f-fb28 fb2a-fb36 fb38-fb3c fb3e fb40-fb41 fb43-fb44",
       "fb46-fb4f"]⟩,
   ⟨["ka", "katakana"],
    Ranges.ofLines
      ["3031-3035 309b-309c 30a0-30fa 30fc-30ff 31f0-31ff 32d0-32fe 3300-3357 ff66-ff9d",
       "1aff0-1aff3 1aff5-1affb 1affd-1affe 1b000 1b120-1b122 1b155 1b164-1b167"]⟩,
   ⟨["lf"], [(0xa, 0xa)]⟩,
   ⟨["ml", "midletter"], Ranges.ofLine "3a b7 387 55f 5f4 2027 fe13 fe55 ff1a"⟩,
   ⟨["mn", "midnum"],
    Ranges.ofLine "2c 3b 37e 589 60c-60d 66c 7f8 2044 fe50 fe54 ff0c ff1b"⟩,
   ⟨["mb", "midnumlet"], Ranges.ofLine "2e 2018-2019 2024 fe52 ff07 ff0e"⟩,
   ⟨["nl", "newline"], Ranges.ofLine "b-c 85 2028-2029"⟩,
   ⟨["nu", "numeric"], numeric⟩,
   ⟨["ri", "regionalindicator"], Trait.regionalIndicator⟩,
   ⟨["sq", "singlequote"], [(0x27, 0x27)]⟩,
   ⟨["wsegspace"], Ranges.ofLine "20 1680 2000-2006 2008-200a 205f 3000"⟩,
   ⟨["zwj"], [(0x200d, 0x200d)]⟩]

/-- Characters that belong to the sentence before. -/
def sentenceExtend : Ranges :=
  Ranges.unions [Trait.graphemeExtend, spacingMark, [(0x200d, 0x200d)]]

/-- Small letters of sentences; the Georgian ones are left out, since a sentence can begin with
them. -/
def sentenceLower : Ranges :=
  Ranges.diff Trait.lowercase (Ranges.ofLine "345 10d0-10fa 10fd-10ff")

/-- Capitals of sentences. -/
def sentenceUpper : Ranges :=
  Ranges.diff (Ranges.union Trait.uppercase titlecaseLetter) (Ranges.ofLine "1c90-1cba 1cbd-1cbf")

/-- The classes by which a text is divided into sentences. -/
def sentences : List NamedClass :=
  [⟨["at", "aterm"], ambiguousTerminal⟩,
   ⟨["cr"], [(0xd, 0xd)]⟩,
   ⟨["cl", "close"],
    Ranges.unions
      [openPunctuation, closePunctuation, initialPunctuation, finalPunctuation,
       Ranges.ofLine "22 27 275b-2760 2e00-2e01 2e06-2e08 2e0b 1f676-1f678"]⟩,
   ⟨["ex", "extend"], sentenceExtend⟩,
   ⟨["fo", "format"], Ranges.union formats (Ranges.ofLine "70f")⟩,
   ⟨["lf"], [(0xa, 0xa)]⟩,
   ⟨["lo", "lower"], sentenceLower⟩,
   ⟨["nu", "numeric"], Ranges.union numeric (Ranges.ofLine "66c")⟩,
   ⟨["le", "oletter"],
    Ranges.union
      (Ranges.diff Trait.alphabetic (Ranges.unions [sentenceLower, sentenceUpper, sentenceExtend]))
      (Ranges.ofLine "5f3")⟩,
   ⟨["sc", "scontinue"],
    Ranges.ofLines
      ["2c-2d 3a-3b 37e 55d 60c-60d 7f8 1802 1808 2013-2014 3001 fe10-fe11 fe13-fe14 fe31-fe32",
       "fe50-fe51 fe54-fe55 fe58 fe63 ff0c-ff0d ff1a-ff1b ff64"]⟩,
   ⟨["st", "sterm"], Ranges.diff Trait.sentenceTerminal ambiguousTerminal⟩,
   ⟨["se", "sep"], Ranges.ofLine "85 2028-2029"⟩,
   ⟨["sp"], Ranges.ofLine "9 b-c 20 a0 1680 2000-200a 202f 205f 3000"⟩,
   ⟨["up", "upper"], sentenceUpper⟩]

end AnswerKey.Unicode.Break
