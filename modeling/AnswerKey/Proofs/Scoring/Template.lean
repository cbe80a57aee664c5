import AnswerKey.Proofs.Pattern.Template
import AnswerKey.Proofs.Regex.Cost
import AnswerKey.Proofs.Scoring.Single

/-!
# What templates accept

A template accepts the texts that are made of one word for each of its tokens, where a token that is
given room has more words than one.  What its expression takes is the sum of what the tokens take,
and the template can be compiled as long as that is no more than there is room for.
-/

namespace AnswerKey.Template

open Regex Pattern Scoring

variable {o : Options} {f : Flags} {token : Token} {ts : List Token} {g : Sign} {w x : Text}
  {before after : Option Char}

/-! ## What a template takes -/

/-- The bytes that the room of a sign takes. -/
def roomCost : Sign → Nat
  | .space => 120
  | .semicolon => 320
  | .pipe | .redirect _ => 272
  | .doubled _ => 304

/-- The bytes that a token takes. -/
def Token.cost (o : Options) : Token → Nat
  | literal c _ => Text.byteSize [c] * Room.ofState
  | sign g => if o.widens g then roomCost g else Text.byteSize g.chars * Room.ofState

/-- The bytes that the expression for a template takes, anchors included. -/
def cost (o : Options) (atoms : List Atom) : Nat :=
  296 + total (Token.cost o) (tokens atoms)

theorem foldCase_eq (hf : f.ignoreCase = false) (s : CharSet) : f.foldCase s = s := by
  unfold Flags.foldCase
  rw [hf]
  rfl

/-- A set of several characters of ASCII is a table. -/
theorem ofTree_set {s : CharSet} {r r' : Nat × Nat} {table : Unicode.Ranges}
    (hranges : s.ranges = r :: r' :: table)
    (hdiff : Unicode.Ranges.diff (r :: r' :: table) Unicode.Category.surrogate = r :: r' :: table)
    (k : Alphabet) (height : Nat) :
    Shape.ofTree (.set s k height) = .set (r :: r' :: table) k := by
  rw [Shape.ofTree, Shape.ofSet, hranges]
  simp [Unicode.Ranges.isSingle, hdiff]

section Tables

open Unicode.Ranges

theorem ofTree_blanks (hf : f.ignoreCase = false) :
    Shape.ofTree (eitherTree f ' ' '\t') = .set [(9, 9), (32, 32)] f.alphabet := by
  rw [eitherTree, foldCase_eq hf]
  apply ofTree_set
  · simp [eitherOf, CharSet.ranges, union, interleave, glue]
  · simp [diff, Unicode.Ranges.compl, gapsFrom, Unicode.lastCodePoint, union, interleave, glue,
      Unicode.Category.surrogate]

theorem ofTree_semicolons (hf : f.ignoreCase = false) :
    Shape.ofTree (eitherTree f ';' '\n') = .set [(10, 10), (59, 59)] f.alphabet := by
  rw [eitherTree, foldCase_eq hf]
  apply ofTree_set
  · simp [eitherOf, CharSet.ranges, union, interleave, glue]
  · simp [diff, Unicode.Ranges.compl, gapsFrom, Unicode.lastCodePoint, union, interleave, glue,
      Unicode.Category.surrogate]

end Tables

/-- A tree that comes to a plain part is flat and costs what the part does. -/
theorem isFlat_of_isPlain {t : Tree} {s : Shape} (h : Shape.ofTree t = s) (hs : s.IsPlain) :
    t.IsFlat ∧ t.cost = s.cost := by
  unfold Tree.IsFlat Tree.cost
  rw [h, hs.items]
  refine ⟨fun u hu => List.mem_singleton.1 hu ▸ hs, ?_⟩
  rfl

/-- A character costs a state for each of its bytes. -/
theorem isFlat_char (hf : f.ignoreCase = false) (c : Char) (k : Alphabet) :
    (Tree.set (f.foldCase (.char c)) k 0).IsFlat ∧
      (Tree.set (f.foldCase (.char c)) k 0).cost = c.utf8Size * Room.ofState := by
  rw [foldCase_eq hf]
  exact isFlat_of_isPlain (Tree.ofTree_char c k 0) (Shape.isPlain_literal [c])

/-- Blanks cost the same whether there must be one or not. -/
theorem isFlat_blankTree (hf : f.ignoreCase = false) {least : Nat} (hleast : least ≤ 1) :
    (blankTree f least).IsFlat ∧ (blankTree f least).cost = 120 := by
  have hset : (Shape.set [(9, 9), (32, 32)] f.alphabet).IsPlain := Shape.isPlain_set _ rfl
  have hshape : Shape.ofTree (blankTree f least) =
      .repeated (.set [(9, 9), (32, 32)] f.alphabet) least none (false != f.swapGreed) := by
    rw [blankTree, Shape.ofTree, ofTree_blanks hf]
    rcases Nat.le_one_iff_eq_zero_or_eq_one.1 hleast with rfl | rfl <;> rfl
  exact isFlat_of_isPlain hshape (hset.repeated_set (List.cons_ne_nil _ _) hleast _)

/-- The trees of some characters take a state for each byte. -/
theorem isFlat_charTrees (hf : f.ignoreCase = false) (cs : List Char) :
    (∀ t ∈ charTrees f cs, t.IsFlat) ∧
      total Tree.cost (charTrees f cs) = Text.byteSize cs * Room.ofState := by
  induction cs with
  | nil => exact ⟨List.forall_mem_nil _, rfl⟩
  | cons c cs ih =>
    obtain ⟨hflat, hcost⟩ := ih
    have hcons : charTrees f (c :: cs) =
        .set (f.foldCase (.char c)) f.alphabet 0 :: charTrees f cs := rfl
    rw [hcons, total, hcost, (isFlat_char hf c _).2, Text.byteSize, Nat.add_mul]
    exact ⟨List.forall_mem_cons.2 ⟨(isFlat_char hf c _).1, hflat⟩, rfl⟩

/-- What stands between the blanks in the room of a sign. -/
theorem isFlat_middleTrees (hf : f.ignoreCase = false) (hg : g ≠ .space) :
    (∀ t ∈ middleTrees f g, t.IsFlat) ∧
      total Tree.cost (middleTrees f g) + 240 = roomCost g := by
  cases g with
  | space => exact (hg rfl).elim
  | semicolon =>
    have hset : (Shape.set [(10, 10), (59, 59)] f.alphabet).IsPlain := Shape.isPlain_set _ rfl
    obtain ⟨hflat, hcost⟩ := isFlat_of_isPlain (ofTree_semicolons hf) hset
    refine ⟨fun t ht => List.mem_singleton.1 ht ▸ hflat, ?_⟩
    rw [middleTrees, total, hcost]
    rfl
  | pipe =>
    obtain ⟨hflat, hcost⟩ := isFlat_charTrees hf ['|']
    exact ⟨hflat, congrArg (· + 240) hcost⟩
  | redirect a =>
    obtain ⟨hflat, hcost⟩ := isFlat_charTrees hf [a.char]
    exact ⟨hflat, (congrArg (· + 240) hcost).trans (by cases a <;> rfl)⟩
  | doubled a =>
    obtain ⟨hflat, hcost⟩ := isFlat_charTrees hf [a.char, a.char]
    exact ⟨hflat, (congrArg (· + 240) hcost).trans (by cases a <;> rfl)⟩

/-- The room of a sign is flat and has a fixed cost for each sign. -/
theorem isFlat_roomTree (hf : f.ignoreCase = false) (g : Sign) :
    (roomTree f g).IsFlat ∧ (roomTree f g).cost = roomCost g := by
  by_cases hg : g = .space
  · subst hg
    exact isFlat_blankTree hf (Nat.le_refl 1)
  · obtain ⟨hmiddle, hcost⟩ := isFlat_middleTrees hf hg
    obtain ⟨hblank, hblankCost⟩ := isFlat_blankTree hf (Nat.zero_le 1)
    have hroom : roomTree f g =
        .group false (.concat (blankTree f 0 :: (middleTrees f g ++ [blankTree f 0]))) := by
      cases g <;> first | rfl | exact (hg rfl).elim
    have hall : ∀ t ∈ blankTree f 0 :: (middleTrees f g ++ [blankTree f 0]), t.IsFlat := by
      simp only [List.mem_cons, List.mem_append, List.not_mem_nil, or_false]
      rintro t (rfl | ht | rfl)
      · exact hblank
      · exact hmiddle t ht
      · exact hblank
    obtain ⟨hflat, htotal⟩ := Tree.isFlat_concat hall
    rw [hroom]
    refine ⟨hflat, htotal.trans ?_⟩
    simp only [total, total_append, hblankCost]
    omega

/-- A token is flat and costs its share. -/
theorem isFlat_trees (hf : f.ignoreCase = false) (token : Token) :
    (∀ t ∈ token.trees o f, t.IsFlat) ∧
      total Tree.cost (token.trees o f) = token.cost o := by
  cases token with
  | literal c h => exact isFlat_charTrees hf [c]
  | sign g =>
    rw [Token.trees, Token.cost]
    by_cases hg : o.widens g = true
    · rw [if_pos hg, if_pos hg]
      obtain ⟨hflat, hcost⟩ := isFlat_roomTree hf g
      exact ⟨fun t ht => List.mem_singleton.1 ht ▸ hflat, (Nat.add_zero _).trans hcost⟩
    · rw [if_neg hg, if_neg hg]
      exact isFlat_charTrees hf g.chars

/-- A template is flat, and its cost is what its tokens and its anchors take. -/
theorem isFlat_tree (hf : f.ignoreCase = false) (atoms : List Atom) :
    (tree o f atoms).IsFlat ∧ (tree o f atoms).cost + 296 = cost o atoms := by
  have hflat : ∀ t ∈ (tokens atoms).flatMap (Token.trees o f), t.IsFlat := by
    intro t ht
    obtain ⟨token, -, ht⟩ := List.mem_flatMap.1 ht
    exact (isFlat_trees hf token).1 t ht
  obtain ⟨htree, hcost⟩ := Tree.isFlat_ofItems hflat
  refine ⟨htree, ?_⟩
  rw [tree, hcost, total_flatMap fun token => (isFlat_trees hf token).2, cost, Nat.add_comm]

/-- An expression that comes to a run takes what the run takes, and what the anchors do. -/
theorem fits_anchored_of_isFlat (hcase : o.ignoreCase = false) {t : Tree} (ht : t.IsFlat) :
    (Shape.ofTree (anchored o t)).fits = true ↔ t.cost + 296 ≤ Room.limit := by
  have hfold : (startFlags o).foldCase (.char '\n') = .char '\n' := foldCase_eq hcase _
  have hnewline : Shape.ofTree (newlineTree o) = .repeated (.literal ['\n']) 0 (some 1) false := by
    rw [newlineTree, hfold, Shape.ofTree, Tree.ofTree_char]
    rfl
  have hplain : ∀ u ∈ (Shape.ofTree t).items ++ [.repeated (.literal ['\n']) 0 (some 1) false],
      u.IsPlain := by
    intro u hu
    rcases List.mem_append.1 hu with hu | hu
    · exact ht u hu
    · rw [List.mem_singleton.1 hu]
      exact Shape.isPlain_optional _ _
  -- the flags come to nothing, and a group that captures nothing to what is in it
  have hitems : (Shape.ofTrees ((flagTokens o).map (fun _ => .empty) ++
      [.assertion .textStart, .group false t, newlineTree o, .assertion .textEnd])).flatMap
        Shape.items = .assertion .textStart :: ((Shape.ofTree t).items ++
          [.repeated (.literal ['\n']) 0 (some 1) false] ++ [.assertion .textEnd]) := by
    have hflags : ((flagTokens o).map fun _ => Tree.empty).flatMap
        (fun t => (Shape.ofTree t).items) = [] := by
      rw [List.flatMap_map]
      exact List.flatMap_eq_nil_iff.2 fun _ _ => rfl
    have hgroup : Shape.ofTree (.group false t) = Shape.ofTree t := rfl
    rw [Tree.flatMap_items_ofTrees, List.flatMap_append, hflags]
    simp only [List.flatMap_cons, List.flatMap_nil, hgroup, hnewline]
    simp [Shape.ofTree, Shape.items]
  rw [anchored, Shape.ofTree, Shape.run_fits_iff hplain hitems, total_append]
  show 6 * Room.ofState + (t.cost + 104) ≤ _ ↔ _
  have hstate : Room.ofState = 32 := rfl
  omega

theorem height_charTrees {cs : List Char} {t : Tree} (ht : t ∈ charTrees f cs) : t.height ≤ 5 := by
  obtain ⟨c, -, rfl⟩ := List.mem_map.1 ht
  exact Nat.zero_le 5

theorem height_roomTree (f : Flags) (g : Sign) : (roomTree f g).height ≤ 5 := by
  have hblank : ∀ least, (blankTree f least).height = 3 := fun _ => rfl
  cases g with
  | space => exact Nat.succ_le_succ ((hblank 1).trans_le (Nat.le_succ 3))
  | _ => exact Nat.le_refl 5

/-- One item is as deep as itself, and several are one level deeper than the deepest. -/
theorem height_ofItems {trees : List Tree} {n : Nat} (h : ∀ t ∈ trees, t.height ≤ n) :
    (Tree.ofItems trees).height ≤ n + 1 := by
  have hgreatest : ∀ trees : List Tree, (∀ t ∈ trees, t.height ≤ n) →
      Tree.greatestHeight trees ≤ n := by
    intro trees h
    induction trees with
    | nil => exact Nat.zero_le n
    | cons t trees ih =>
      obtain ⟨ht, htrees⟩ := List.forall_mem_cons.1 h
      exact Nat.max_le.2 ⟨ht, ih htrees⟩
  match trees with
  | [] => exact Nat.zero_le _
  | [t] => exact (h t List.mem_cons_self).trans (Nat.le_succ n)
  | t :: u :: trees => exact Nat.succ_le_succ (hgreatest _ h)

/-- A template is never nested too deep. -/
theorem height_tree (o : Options) (f : Flags) (atoms : List Atom) :
    (tree o f atoms).height ≤ 6 := by
  refine height_ofItems fun t ht => ?_
  obtain ⟨token, -, ht⟩ := List.mem_flatMap.1 ht
  cases token with
  | literal c h => exact height_charTrees ht
  | sign g =>
    rw [Token.trees] at ht
    split at ht
    · rw [List.mem_singleton.1 ht]
      exact height_roomTree f g
    · exact height_charTrees ht

/-- A template can be compiled as long as there is room for it. -/
theorem isSome_compile?_text_iff (hcase : o.ignoreCase = false) (atoms : List Atom) :
    (compile? o (text atoms)).isSome = true ↔ cost o atoms ≤ Room.limit := by
  obtain ⟨hflat, hcost⟩ := isFlat_tree (o := o) (f := startFlags o) hcase atoms
  have hheight : (tree o (startFlags o) atoms).height ≤ 248 :=
    (height_tree o _ atoms).trans (by decide)
  rw [compile?_isSome_iff (readTree?_body o (startFlags o) atoms),
    fits_anchored_of_isFlat hcase hflat, hcost]
  exact ⟨fun h => h.2.2, fun h => ⟨not_endsInComment_body o atoms, hheight, h⟩⟩

/-! ## Words -/

/-- Spaces and tabs. -/
def IsBlanks (t : Text) : Prop :=
  ∀ c ∈ t, c = ' ' ∨ c = '\t'

/-- The words of a sign that is given room. -/
def IsWide : Sign → Text → Prop
  | .space, w => w ≠ [] ∧ IsBlanks w
  | .semicolon, w => ∃ u c v, w = u ++ c :: v ∧ IsBlanks u ∧ (c = ';' ∨ c = '\n') ∧ IsBlanks v
  | g, w => ∃ u v, w = u ++ (g.chars ++ v) ∧ IsBlanks u ∧ IsBlanks v

/-- The words of a token. -/
def IsWord (o : Options) : Token → Text → Prop
  | .literal c _, w => w = [c]
  | .sign g, w => if o.widens g then IsWide g w else w = g.chars

/-- A text that is made of one word for each token, in order. -/
def Spells (o : Options) (ts : List Token) (x : Text) : Prop :=
  ∃ words, List.Forall₂ (IsWord o) ts words ∧ x = words.flatten

theorem spells_nil_iff : Spells o [] x ↔ x = [] := by
  constructor
  · rintro ⟨words, hwords, rfl⟩
    cases hwords
    rfl
  · rintro rfl
    exact ⟨[], .nil, rfl⟩

theorem spells_cons_iff :
    Spells o (token :: ts) x ↔ ∃ w y, x = w ++ y ∧ IsWord o token w ∧ Spells o ts y := by
  constructor
  · rintro ⟨words, hwords, rfl⟩
    cases hwords with
    | cons hw hwords => exact ⟨_, _, List.flatten_cons, hw, _, hwords, rfl⟩
  · rintro ⟨w, y, rfl, hw, words, hwords, rfl⟩
    exact ⟨w :: words, .cons hw hwords, List.flatten_cons.symm⟩

/-! ## Matching -/

/-- With regard to case, characters match themselves only. -/
theorem matches_charTrees_iff (hf : f.ignoreCase = false) {cs : List Char} :
    Matches (Tree.sequence (charTrees f cs)) before x after ↔ x = cs := by
  induction cs generalizing before x with
  | nil => exact matches_empty_iff
  | cons c cs ih =>
    have hcons : charTrees f (c :: cs) =
        .set (f.foldCase (.char c)) f.alphabet 0 :: charTrees f cs := rfl
    rw [hcons, foldCase_eq hf, Tree.matches_sequence_cons, matches_seq_iff]
    constructor
    · rintro ⟨s, u, rfl, hs, hu⟩
      obtain ⟨d, rfl, hd⟩ := matches_chars_iff.1 hs
      rw [beq_iff_eq.1 hd, ih.1 hu]
      rfl
    · rintro rfl
      exact ⟨[c], cs, rfl, .chars (beq_iff_eq.2 rfl), ih.2 rfl⟩

theorem rounds_chars_iff {s : CharSet} {n : Nat} :
    Rounds (.chars s) n before x after ↔ x.length = n ∧ ∀ c ∈ x, s.contains c = true := by
  induction n generalizing before x with
  | zero =>
    rw [rounds_zero_iff]
    constructor
    · rintro rfl
      exact ⟨rfl, List.forall_mem_nil _⟩
    · exact fun h => List.length_eq_zero_iff.1 h.1
  | succ n ih =>
    rw [rounds_succ_iff]
    constructor
    · rintro ⟨u, v, rfl, hu, hv⟩
      obtain ⟨c, rfl, hc⟩ := matches_chars_iff.1 hu
      obtain ⟨hlength, hall⟩ := ih.1 hv
      exact ⟨congrArg (· + 1) hlength, List.forall_mem_cons.2 ⟨hc, hall⟩⟩
    · rintro ⟨hlength, hall⟩
      obtain ⟨c, x, rfl⟩ := List.exists_cons_of_length_eq_add_one hlength
      obtain ⟨hc, hall⟩ := List.forall_mem_cons.1 hall
      exact ⟨[c], x, rfl, .chars hc, ih.2 ⟨Nat.succ.inj hlength, hall⟩⟩

theorem contains_eitherOf {c d e : Char} : (eitherOf c d).contains e = true ↔ e = c ∨ e = d := by
  simp [eitherOf, CharSet.contains]

/-- Blanks are spaces and tabs, as many as there have to be. -/
theorem matches_blankTree_iff (hf : f.ignoreCase = false) {least : Nat} :
    Matches (blankTree f least).regex before x after ↔ least ≤ x.length ∧ IsBlanks x := by
  have hset : (blankTree f least).regex = loop (.chars (eitherOf ' ' '\t')) least none := by
    rw [blankTree, eitherTree, foldCase_eq hf]
    rfl
  rw [hset, matches_loop, matches_repeated_iff]
  simp only [rounds_chars_iff, contains_eitherOf]
  constructor
  · rintro ⟨n, hn, -, rfl, hall⟩
    exact ⟨hn, hall⟩
  · rintro ⟨hn, hall⟩
    exact ⟨x.length, hn, nofun, rfl, hall⟩

/-- What is between blanks, whatever it is. -/
theorem matches_between_iff (hf : f.ignoreCase = false) {trees : List Tree} {P : Text → Prop}
    (h : ∀ before x after, Matches (Tree.sequence trees) before x after ↔ P x) :
    Matches (Tree.sequence (blankTree f 0 :: (trees ++ [blankTree f 0]))) before x after ↔
      ∃ u w v, x = u ++ (w ++ v) ∧ IsBlanks u ∧ P w ∧ IsBlanks v := by
  have hlast : ∀ before x after, Matches (Tree.sequence [blankTree f 0]) before x after ↔
      IsBlanks x := by
    intro before x after
    rw [Tree.sequence, matches_blankTree_iff hf]
    exact and_iff_right (Nat.zero_le _)
  rw [Tree.matches_sequence_cons, matches_seq_iff]
  simp only [Tree.matches_sequence_append, matches_blankTree_iff hf, h, hlast]
  constructor
  · rintro ⟨u, y, rfl, ⟨-, hu⟩, w, v, rfl, hw, hv⟩
    exact ⟨u, w, v, rfl, hu, hw, hv⟩
  · rintro ⟨u, w, v, rfl, hu, hw, hv⟩
    exact ⟨u, w ++ v, rfl, ⟨Nat.zero_le _, hu⟩, w, v, rfl, hw, hv⟩

/-- The room of a sign matches what is wide for it. -/
theorem matches_roomTree_iff (hf : f.ignoreCase = false) (g : Sign) :
    Matches (Tree.sequence [roomTree f g]) before x after ↔ IsWide g x := by
  have hchars : ∀ cs : List Char, Matches (Tree.sequence
      (blankTree f 0 :: (charTrees f cs ++ [blankTree f 0]))) before x after ↔
        ∃ u v, x = u ++ (cs ++ v) ∧ IsBlanks u ∧ IsBlanks v := by
    intro cs
    rw [matches_between_iff hf fun _ _ _ => matches_charTrees_iff hf]
    constructor
    · rintro ⟨u, w, v, rfl, hu, rfl, hv⟩
      exact ⟨u, v, rfl, hu, hv⟩
    · rintro ⟨u, v, rfl, hu, hv⟩
      exact ⟨u, cs, v, rfl, hu, rfl, hv⟩
  cases g with
  | space =>
    show Matches (blankTree f 1).regex before x after ↔ _
    rw [matches_blankTree_iff hf]
    exact and_congr_left' List.length_pos_iff
  | semicolon =>
    -- a newline may stand for a semicolon
    have hmiddle : ∀ before x after, Matches (Tree.sequence [eitherTree f ';' '\n']) before x after ↔
        ∃ c, x = [c] ∧ (c = ';' ∨ c = '\n') := by
      intro before x after
      rw [Tree.sequence, eitherTree, foldCase_eq hf, Tree.regex, matches_chars_iff]
      simp only [contains_eitherOf]
    show Matches (Tree.sequence
      (blankTree f 0 :: ([eitherTree f ';' '\n'] ++ [blankTree f 0]))) before x after ↔ _
    rw [matches_between_iff hf hmiddle]
    constructor
    · rintro ⟨u, w, v, rfl, hu, ⟨c, rfl, hc⟩, hv⟩
      exact ⟨u, c, v, rfl, hu, hc, hv⟩
    · rintro ⟨u, c, v, rfl, hu, hc, hv⟩
      exact ⟨u, [c], v, rfl, hu, ⟨c, rfl, hc⟩, hv⟩
  | _ => exact hchars _

/-- A token matches its words. -/
theorem matches_trees_iff (hf : f.ignoreCase = false) (token : Token) :
    Matches (Tree.sequence (token.trees o f)) before x after ↔ IsWord o token x := by
  cases token with
  | literal c h => exact matches_charTrees_iff hf
  | sign g =>
    rw [Token.trees, IsWord]
    split
    · exact matches_roomTree_iff hf g
    · exact matches_charTrees_iff hf

/-- The tree of a template matches what is spelled by its tokens. -/
theorem matches_tree_iff (hf : f.ignoreCase = false) (atoms : List Atom) :
    Matches (tree o f atoms).regex before x after ↔ Spells o (tokens atoms) x := by
  rw [tree, Tree.regex_ofItems]
  induction tokens atoms generalizing before x with
  | nil => exact matches_empty_iff.trans spells_nil_iff.symm
  | cons token ts ih =>
    rw [List.flatMap_cons, Tree.matches_sequence_append, spells_cons_iff]
    simp only [matches_trees_iff hf, ih]

/-- A template matches what its tokens spell, with a newline at the end or without. -/
theorem fullMatch_tree_iff (hf : f.ignoreCase = false) (atoms : List Atom) :
    FullMatch (tree o f atoms).regex x ↔
      ∃ y, (x = y ∨ x = y ++ ['\n']) ∧ Spells o (tokens atoms) y := by
  unfold FullMatch
  simp only [matches_tree_iff hf]
  constructor
  · rintro ⟨y, v, rfl, rfl | rfl, hy⟩
    · exact ⟨y, .inl (List.append_nil y), hy⟩
    · exact ⟨y, .inr rfl, hy⟩
  · rintro ⟨y, rfl | rfl, hy⟩
    · exact ⟨x, [], (List.append_nil x).symm, .inl rfl, hy⟩
    · exact ⟨y, ['\n'], rfl, .inr rfl, hy⟩

/-! ## Templates -/

/-- The first place of a character cuts a text in one way only. -/
theorem append_cons_inj {c : Char} {u v p q : Text} (hu : c ∉ u) (hp : c ∉ p)
    (h : u ++ c :: v = p ++ c :: q) : u = p ∧ v = q := by
  have hlength : u.length = p.length := by
    have hidx := congrArg (List.idxOf c) h
    rwa [List.idxOf_append_of_notMem hu, List.idxOf_append_of_notMem hp, List.idxOf_cons_self,
      List.idxOf_cons_self] at hidx
  obtain ⟨hup, hvq⟩ := List.append_inj h hlength
  exact ⟨hup, (List.cons.inj hvq).2⟩

/-- Where a character stands twice only, and side by side, nothing is between the two. -/
theorem eq_nil_of_side_by_side {c : Char} {p q u v w : Text} (hp : c ∉ p) (hq : c ∉ q)
    (h : u ++ c :: (v ++ c :: w) = p ++ c :: c :: q) : v = [] := by
  -- one side holds the character twice, so nothing else on the other side may be it
  have hcount := congrArg (List.count c) h
  simp only [List.count_append, List.count_cons_self, List.count_eq_zero.2 hp,
    List.count_eq_zero.2 hq] at hcount
  have hu : c ∉ u := List.count_eq_zero.1 (by omega)
  have hv : c ∉ v := List.count_eq_zero.1 (by omega)
  obtain ⟨-, hrest⟩ := append_cons_inj hu hp h
  exact (append_cons_inj (q := q) hv List.not_mem_nil hrest).1

/-- There is no arrow among blanks. -/
theorem arrow_not_mem_of_isBlanks {t : Text} (h : IsBlanks t) (a : Arrow) : a.char ∉ t := by
  intro hmem
  rcases h _ hmem with hc | hc
  · exact absurd hc (by cases a <;> decide)
  · exact absurd hc (by cases a <;> decide)

/-- The two signs of a doubled one stand side by side in all its words. -/
theorem exists_of_isWord_doubled {a : Arrow} (h : IsWord o (.sign (.doubled a)) w) :
    ∃ u v, w = u ++ a.char :: a.char :: v ∧ a.char ∉ u ∧ a.char ∉ v := by
  rw [IsWord] at h
  split at h
  · obtain ⟨u, v, rfl, hu, hv⟩ := h
    exact ⟨u, v, rfl, arrow_not_mem_of_isBlanks hu a, arrow_not_mem_of_isBlanks hv a⟩
  · exact ⟨[], [], h, List.not_mem_nil, List.not_mem_nil⟩

/-- A template with a doubled sign between two letters. -/
def doubledTemplate : List Atom :=
  [.literal 'a' rfl, .arrow .right, .arrow .right, .literal 'b' rfl]

/-- What it spells has the two signs side by side. -/
theorem eq_nil_of_spells_doubled {u v w y : Text} (hx : x = y ∨ x = y ++ ['\n'])
    (hy : Spells o (tokens doubledTemplate) y) (h : x = u ++ '>' :: (v ++ '>' :: w)) : v = [] := by
  have htokens : tokens doubledTemplate =
      [.literal 'a' rfl, .sign (.doubled .right), .literal 'b' rfl] := rfl
  simp only [htokens, spells_cons_iff, spells_nil_iff] at hy
  -- the words are a letter, one of the doubled sign and a letter
  obtain ⟨_, _, rfl, rfl, s, _, rfl, hs, _, _, rfl, rfl, rfl⟩ := hy
  obtain ⟨p, q, rfl, hp, hq⟩ := exists_of_isWord_doubled hs
  have hp' : '>' ∉ 'a' :: p := by simpa [Arrow.char] using hp
  rcases hx with rfl | rfl
  · have hq' : '>' ∉ q ++ ['b'] := by simpa [Arrow.char] using hq
    refine eq_nil_of_side_by_side hp' hq' (h.symm.trans ?_)
    simp [Arrow.char]
  · have hq' : '>' ∉ q ++ ['b', '\n'] := by simpa [Arrow.char] using hq
    refine eq_nil_of_side_by_side hp' hq' (h.symm.trans ?_)
    simp [Arrow.char]

/-- Case apart, a template can be compiled exactly as long as there is room for it, and accepts
exactly what its tokens spell, with a newline behind it or without; so nothing gets between the two
signs of a doubled one. -/
theorem accepts_text_iff_spells (hcase : o.ignoreCase = false) (atoms : List Atom) :
    ((compile? o (text atoms)).isSome = true ↔ cost o atoms ≤ Room.limit) ∧
      (∀ x, accepts (compile? o (text atoms)) x = true ↔
        (compile? o (text atoms)).isSome = true ∧
          ∃ y, (x = y ∨ x = y ++ ['\n']) ∧ Spells o (tokens atoms) y) ∧
      ∀ u v w : Text,
        accepts (compile? o "a>>b".toList) (u ++ '>' :: (v ++ '>' :: w)) = true → v = [] := by
  have haccepts : ∀ atoms x, accepts (compile? o (text atoms)) x = true ↔
      (compile? o (text atoms)).isSome = true ∧
        ∃ y, (x = y ∨ x = y ++ ['\n']) ∧ Spells o (tokens atoms) y := by
    intro atoms x
    rw [accepts_compile?_iff (readTree?_body o (startFlags o) atoms), fullMatch_tree_iff hcase]
  refine ⟨isSome_compile?_text_iff hcase atoms, haccepts atoms, fun u v w h => ?_⟩
  obtain ⟨-, y, hx, hy⟩ := (haccepts doubledTemplate _).1 h
  exact eq_nil_of_spells_doubled hx hy rfl

/-- A template with a token of every kind. -/
def sampleTemplate : List Atom :=
  [.literal 'l' rfl, .space, .arrow .left, .arrow .right, .arrow .right, .pipe, .semicolon,
    .literal '/' rfl]

/-- Blanks around the tokens are accepted, and a newline for the semicolon. -/
theorem accepts_sampleTemplate :
    text sampleTemplate = "l <>>\\|;/".toList ∧
      accepts (compile? { widePipes := true, wideRedirects := true } (text sampleTemplate))
        "l \t< \t>> |\n /\n".toList = true := by
  obtain ⟨hbuild, haccepts, -⟩ :=
    accepts_text_iff_spells (o := { widePipes := true, wideRedirects := true }) rfl sampleTemplate
  have hspace : IsWide .space [' ', '\t'] := ⟨List.cons_ne_nil _ _, by simp [IsBlanks]⟩
  have hleft : IsWide (.redirect .left) ['<', ' '] :=
    ⟨[], [' '], rfl, by simp [IsBlanks], by simp [IsBlanks]⟩
  have hright : IsWide (.doubled .right) ['\t', '>', '>', ' '] :=
    ⟨['\t'], [' '], rfl, by simp [IsBlanks], by simp [IsBlanks]⟩
  have hpipe : IsWide .pipe ['|'] := ⟨[], [], rfl, by simp [IsBlanks], by simp [IsBlanks]⟩
  have hsemicolon : IsWide .semicolon ['\n', ' '] :=
    ⟨[], '\n', [' '], rfl, by simp [IsBlanks], .inr rfl, by simp [IsBlanks]⟩
  refine ⟨rfl, (haccepts _).2 ⟨hbuild.2 (by decide), "l \t< \t>> |\n /".toList, .inr rfl, ?_⟩⟩
  exact ⟨_, .cons rfl (.cons hspace (.cons hleft (.cons hright (.cons hpipe (.cons hsemicolon
    (.cons rfl .nil)))))), rfl⟩

theorem text_replicate (n : Nat) : text (List.replicate n .semicolon) = List.replicate n ';' := by
  induction n with
  | zero => rfl
  | succ n ih => exact congrArg (';' :: ·) ih

theorem tokens_replicate (n : Nat) :
    tokens (List.replicate n .semicolon) = List.replicate n (.sign .semicolon) := by
  induction n with
  | zero => rfl
  | succ n ih => exact congrArg (Token.sign .semicolon :: ·) ih

/-- A template of semicolons has a cost that grows with each of them. -/
theorem cost_replicate (n : Nat) :
    cost { widePipes := true } (List.replicate n .semicolon) = 296 + n * 320 := by
  rw [cost, tokens_replicate, total_replicate]
  rfl

/-- A long template is not compiled: there is no room for it. -/
theorem long_template_not_compiled :
    text (List.replicate 40000 .semicolon) = List.replicate 40000 ';' ∧
      compile? { widePipes := true } (List.replicate 40000 ';') = none := by
  have hlarge : ¬ cost { widePipes := true } (List.replicate 40000 .semicolon) ≤ Room.limit := by
    rw [cost_replicate]
    decide
  refine ⟨text_replicate 40000, ?_⟩
  rw [← text_replicate, ← Option.not_isSome_iff_eq_none]
  exact fun hsome => hlarge ((isSome_compile?_text_iff rfl _).1 hsome)

end AnswerKey.Template
