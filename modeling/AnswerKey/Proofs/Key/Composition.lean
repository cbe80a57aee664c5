import AnswerKey.Proofs.Key.Refusal
import AnswerKey.Proofs.Text.Padding

/-!
# Keys put together

A key with nothing but padding behind its last block can stand in front of settings, or in front of
a weight and another key.  No block is read any differently for what stands behind it, and the
errors are the only place where it counts how far into a text a block is.  So the blocks and the
settings of the whole are those of its parts, but for the weight of a block that is no longer the
first (`read_append`).
-/

namespace AnswerKey.Key

open Text

variable {n total : Nat} {p percent next : UInt32} {t b c m rest digits : Text} {key k : Key}

/-! ## Where blocks stand -/

/-- A text that can be read to its end is read in the same way at the end of any other text. -/
theorem readBlocks_total (h : (readBlocks n p t).remaining = .ok rest) (total : Nat) :
    readBlocks total p t = readBlocks n p t := by
  fun_induction readBlocks n p t with
  | case1 p t hfind => cases h
  | case2 p t body letters after hfind block sign hafter e hweight => cases h
  | case3 p t body letters after hfind block sign hafter next rest' hweight more ih =>
    obtain ⟨digits, rfl, hdigits, hsmall, rfl⟩ := readWeight_eq_ok_iff.1 hweight
    rw [readBlocks_of_find? hfind, readOn_of_weight hafter (hdigits.readWeight_of_lt hsmall _),
      ih h]
  | case4 p t body letters after hfind block hlast =>
    exact readBlocks_of_last hfind rfl hlast

/-- Blocks with another weight for the first one. -/
def reweigh (percent : UInt32) (blocks : List Block) : List Block :=
  blocks.modifyHead fun block => { block with percent := percent }

/-- The weight in front of a text goes to its first block, and nothing else depends on it. -/
theorem readBlocks_percent (total : Nat) (p percent : UInt32) (t : Text) :
    (readBlocks total percent t).texts.map BlockText.block =
        reweigh percent ((readBlocks total p t).texts.map BlockText.block) ∧
      (readBlocks total percent t).remaining = (readBlocks total p t).remaining := by
  cases hfind : Bracket.closing.find? t with
  | none =>
    rw [readBlocks_of_find?_eq_none hfind, readBlocks_of_find?_eq_none hfind]
    exact ⟨rfl, rfl⟩
  | some found =>
    obtain ⟨body, letters, after⟩ := found
    rw [readBlocks_of_find? hfind, readBlocks_of_find? hfind]
    exact ⟨rfl, rfl⟩

/-! ## Texts without carriage returns -/

theorem blocksOf_of_no_return (h : '\r' ∉ t) :
    blocksOf t = readBlocks (byteSize t) firstPercent t := by
  unfold blocksOf
  rw [withoutReturns_of_not_mem h]

/-- What a text without returns is read as, in terms of its blocks at the end of any text. -/
theorem blocks_of_read (hreturn : '\r' ∉ t) (h : read t = .ok key) (total : Nat)
    (percent : UInt32) :
    ∃ rest, (readBlocks total percent t).remaining = .ok rest ∧
      (readBlocks total percent t).texts.map BlockText.block = reweigh percent key.blocks ∧
      key.settings = Settings.read (trim rest) := by
  cases hrest : (blocksOf t).remaining with
  | error e =>
    rw [read_eq_error_iff.2 hrest] at h
    cases h
  | ok rest =>
    rw [read_of_remaining hrest] at h
    cases h
    rw [blocksOf_of_no_return hreturn] at hrest ⊢
    have hpercent := readBlocks_percent total firstPercent percent t
    rw [readBlocks_total hrest total] at hpercent
    exact ⟨rest, hpercent.2.trans hrest, hpercent.1, rfl⟩

/-! ## Keys in front of something -/

/-- A key with nothing behind its last block gives its blocks to whatever text it stands in front
of, and what follows is read as if the key were not there. -/
theorem read_append_of_readOn (hb : '\r' ∉ b) (hread : read b = .ok key) (hbare : IsBare b)
    {w : Text} (hw : '\r' ∉ w)
    (hon : (readOn (byteSize (b ++ w)) w).remaining = .ok rest) :
    read (b ++ w) = .ok
      ⟨key.blocks ++ (readOn (byteSize (b ++ w)) w).texts.map BlockText.block,
        Settings.read (trim rest)⟩ := by
  have hreturn : '\r' ∉ b ++ w := by simp [hb, hw]
  -- the blocks of the key come first, and what is read behind them does not depend on it
  have hrest := hbare.2
  rw [blocksOf_of_no_return hb] at hrest
  have hblocks := readBlocks_append hrest (byteSize (b ++ w)) firstPercent w
  have hremaining : (blocksOf (b ++ w)).remaining = .ok rest := by
    rw [blocksOf_of_no_return hreturn, hblocks]
    exact hon
  have hkey : (readBlocks (byteSize (b ++ w)) firstPercent b).texts.map BlockText.block =
      key.blocks := by
    rw [read_of_remaining hbare.2] at hread
    rw [readBlocks_total hrest, ← blocksOf_of_no_return hb]
    exact congrArg Key.blocks (Except.ok.inj hread)
  rw [read_of_remaining hremaining, blocksOf_of_no_return hreturn, hblocks]
  simp only
  rw [List.map_append, hkey]

/-- A key with nothing but padding behind its last block can be followed by anything that does not
begin with a percent sign, which is then read as settings, or by a percent sign, a weight and
another key, which then adds its blocks, the first of them with that weight, and its settings. -/
theorem read_append {b : Text} {key : Key} (hb : '\r' ∉ b) (hread : read b = .ok key)
    (hbare : IsBare b) :
    (∀ m, '\r' ∉ m → '%' ∉ (trimStart m).head? →
      read (b ++ m) = .ok ⟨key.blocks, Settings.read (trim m)⟩) ∧
    ∀ digits c k, IsWeight digits c → Number.digitsValue digits < UInt32.size → '\r' ∉ c →
      read c = .ok k →
        read (b ++ '%' :: (digits ++ c)) = .ok
          ⟨key.blocks ++ reweigh (UInt32.ofNat (Number.digitsValue digits)) k.blocks,
            k.settings⟩ := by
  constructor
  -- settings follow
  · intro m hm hhead
    have hsign : ∀ sign, trimStart m ≠ '%' :: sign := by
      intro sign hsign
      rw [hsign] at hhead
      exact hhead rfl
    have hon : ∀ total, readOn total m = ⟨[], .ok (trimStart m)⟩ :=
      fun _ => readOn_of_no_sign hsign
    rw [read_append_of_readOn hb hread hbare hm (by rw [hon]), hon, trim_trimStart]
    simp
  -- another key follows
  · intro digits c k hdigits hsmall hc hk
    have hon : ∀ total, readOn total ('%' :: (digits ++ c)) =
        readBlocks total (UInt32.ofNat (Number.digitsValue digits)) c :=
      fun _ => readOn_of_weight (trimStart_cons rfl _) (hdigits.readWeight_of_lt hsmall _)
    have hw : '\r' ∉ '%' :: (digits ++ c) := by
      have hdigit : '\r' ∉ digits := fun h => absurd (hdigits.isDigit _ h) (by decide)
      simp [hdigit, hc]
    obtain ⟨rest, hrest, hblocks, hsettings⟩ := blocks_of_read hc hk
      (byteSize (b ++ '%' :: (digits ++ c))) (UInt32.ofNat (Number.digitsValue digits))
    rw [read_append_of_readOn hb hread hbare hw (by rw [hon, hrest]), hon, hblocks, hsettings]

/-- Closing brackets, slashes and percent signs behind a key are left to its settings; zeros in
front of a weight do not count. -/
theorem read_append_sample :
    let b := "[[a]]] [[b/]]/O/ \n".toList
    let m := "size=7]]//\n%5[[x]]//".toList
    let c := "[[c]]//%5 d]] /t/ feedback=%".toList
    ∃ key k, read b = .ok key ∧ read c = .ok k ∧
      read (b ++ m) = .ok ⟨key.blocks, Settings.read m⟩ ∧
      read (b ++ "%0025".toList ++ c) = .ok ⟨key.blocks ++ reweigh 25 k.blocks, k.settings⟩ := by
  intro b m c
  have hb : (blocksOf b).remaining = .ok [] := by decide +kernel
  have hc : (blocksOf c).remaining = .ok "feedback=%".toList := by decide +kernel
  have hbare : IsBare b := ⟨⟨_, read_of_remaining hb⟩, hb⟩
  have happend := read_append (by decide) (read_of_remaining hb) hbare
  have hdigits : IsWeight "0025".toList c := by
    refine ⟨by decide, List.all_eq_true.1 (by decide), fun d hd => ?_⟩
    obtain rfl : '[' = d := Option.some.inj hd
    rfl
  refine ⟨_, _, read_of_remaining hb, read_of_remaining hc, ?_, ?_⟩
  · exact happend.1 m (by decide) (by decide)
  · have hweight := happend.2 _ c _ hdigits (by decide) (by decide) (read_of_remaining hc)
    exact hweight

end AnswerKey.Key
