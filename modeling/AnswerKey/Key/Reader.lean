import AnswerKey.Key.Bracket
import AnswerKey.Key.Settings

/-!
# Reading a key

Carriage returns are dropped first.  Then blocks are read as long as a percent
sign follows the one before; the text after the last block holds the settings.
-/

namespace AnswerKey.Key

/-- The weight of the first block, which is never written. -/
def firstPercent : UInt32 := 100

/-- A block as it stands in the text, its letters not yet interpreted. -/
structure BlockText where
  percent : UInt32
  letters : Text
  patterns : List Text
deriving DecidableEq, Repr

/-- The block that a text stands for. -/
def BlockText.block (b : BlockText) : Block :=
  ⟨b.percent, b.patterns, Options.ofLetters b.letters⟩

/-- The text without carriage returns. -/
def withoutReturns (t : Text) : Text :=
  t.filter (· ≠ '\r')

/-- The patterns of a block's body: padding and the first opening brackets do not count. -/
def readPatterns (body : Text) : List Text :=
  let body := Text.trim body
  Bracket.boundary.split ((Text.after? ['[', '['] body).getD body)

/-- The weight after a percent sign, and what follows it.  `offset` is where the sign stands. -/
def readWeight (offset : Nat) (afterSign : Text) : Except KeyError (UInt32 × Text) :=
  let (digits, rest) := Number.spanDigits afterSign
  if digits = [] then .error (.missingWeight offset)
  else if Number.digitsValue digits < UInt32.size then
    .ok (UInt32.ofNat (Number.digitsValue digits), rest)
  else .error (.invalidWeight digits)

theorem length_of_readWeight {offset : Nat} {t rest : Text} {percent : UInt32}
    (h : readWeight offset t = .ok (percent, rest)) : rest.length ≤ t.length := by
  unfold readWeight at h
  dsimp only at h
  by_cases hnil : (Number.spanDigits t).1 = []
  · rw [if_pos hnil] at h
    cases h
  · rw [if_neg hnil] at h
    by_cases hlt : Number.digitsValue (Number.spanDigits t).1 < UInt32.size
    · rw [if_pos hlt] at h
      have hrest : (Number.spanDigits t).2 = rest := congrArg Prod.snd (Except.ok.inj h)
      rw [← hrest]
      exact (List.dropWhile_sublist _).length_le
    · rw [if_neg hlt] at h
      cases h

/-- The blocks that could be read, and then what follows them or why the next one failed. -/
structure Blocks where
  texts : List BlockText
  remaining : Except KeyError Text

/-- Read blocks from `t`, the end of a text of `total` bytes, the first with weight `percent`. -/
def readBlocks (total : Nat) (percent : UInt32) (t : Text) : Blocks :=
  match _h : Bracket.closing.find? t with
  | none => ⟨[], .error (.missingDelimiter (total - Text.byteSize t))⟩
  | some (body, letters, after) =>
    let block : BlockText := ⟨percent, letters, readPatterns body⟩
    match _hr : Text.trimStart after with
    | '%' :: afterSign =>
      match _hw : readWeight (total - Text.byteSize ('%' :: afterSign)) afterSign with
      | .error e => ⟨[block], .error e⟩
      | .ok (percent, rest) =>
        let more := readBlocks total percent rest
        ⟨block :: more.texts, more.remaining⟩
    | rest => ⟨[block], .ok rest⟩
termination_by t.length
decreasing_by
  have hfind := Bracket.closing.length_of_find? ‹_›
  have htrim := (List.dropWhile_sublist Text.isPadding (l := after)).length_le
  have hweight := length_of_readWeight ‹_›
  simp only [Text.trimStart] at _hr
  rw [_hr] at htrim
  simp only [List.length_cons] at htrim
  omega

/-- The blocks of a text. -/
def blocksOf (text : Text) : Blocks :=
  let t := withoutReturns text
  readBlocks (Text.byteSize t) firstPercent t

/-- The key that a text stands for, or why it is none. -/
def read (text : Text) : Except KeyError Key :=
  let blocks := blocksOf text
  match blocks.remaining with
  | .error e => .error e
  | .ok rest => .ok ⟨blocks.texts.map BlockText.block, Settings.read (Text.trim rest)⟩

/-- The key that a text stands for, the blank one if it is none. -/
def readOrBlank (text : Text) : Key :=
  match read text with
  | .ok key => key
  | .error _ => blank

end AnswerKey.Key
