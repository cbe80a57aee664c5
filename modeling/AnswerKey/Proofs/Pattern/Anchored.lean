import AnswerKey.Pattern
import AnswerKey.Proofs.Regex.Group
import AnswerKey.Proofs.Regex.Search

/-!
# The anchors around a pattern

The expression for a pattern is read as the anchors around what the pattern itself stands
for.  Flags inside the pattern end with its group.  The only pattern whose group is never
closed is one that ends in a comment, which takes the closing anchor too.
-/

namespace AnswerKey.Pattern

open Regex

/-- What stands before the pattern. -/
def head (o : Options) : Text :=
  flags o ++ "^(?:".toList

/-- What stands behind the pattern. -/
def tail : Text :=
  ")\\n?$".toList

theorem expand_eq (o : Options) (p : Text) : expand o p = head o ++ (body o p ++ tail) := by
  rw [expand, head, tail, List.append_assoc]

theorem isTail_tail : IsTail tail :=
  ⟨"\\n?$".toList, rfl, by decide⟩

/-- The flags that the options ask for. -/
def startFlags (o : Options) : Flags :=
  { ignoreCase := o.ignoreCase, dotAll := o.dotAll }

/-! ## Tokens -/

/-- The token for the flags, if any are set. -/
def flagTokens (o : Options) : List Token :=
  match o.ignoreCase, o.dotAll with
  | false, false => []
  | true, false => [.flags [(.ignoreCase, true)]]
  | false, true => [.flags [(.dotAll, true)]]
  | true, true => [.flags [(.ignoreCase, true), (.dotAll, true)]]

/-- The tokens before the pattern. -/
def headTokens (o : Options) : List Token :=
  flagTokens o ++ [.caret, .groupOpen []]

/-- The tokens behind the pattern. -/
def tailTokens : List Token :=
  [.groupClose, .item (.literal '\n'), .repetition 0 (some 1) false, .dollar]

theorem readTokensWithin?_flags (o : Options) (t : Text) (budget : Nat) :
    ∃ j, budget ≤ j ∧ readTokensWithin? (budget + (flags o).length) {} (flags o ++ t) =
      (readTokensWithin? j {} t).map (flagTokens o ++ ·) := by
  unfold flags flagTokens
  rcases o.ignoreCase <;> rcases o.dotAll
  · exact ⟨budget, Nat.le_refl budget, (congrFun Option.map_id _).symm⟩
  · exact ⟨budget + 3, by omega, readTokensWithin?_plain rfl rfl (budget + 3)⟩
  · exact ⟨budget + 3, by omega, readTokensWithin?_plain rfl rfl (budget + 3)⟩
  · exact ⟨budget + 4, by omega, readTokensWithin?_plain rfl rfl (budget + 4)⟩

theorem readTokensWithin?_open (t : Text) (budget : Nat) :
    readTokensWithin? (budget + 2) {} ("^(?:".toList ++ t) =
      (readTokensWithin? budget { outer := [false] } t).map ([.caret, .groupOpen []] ++ ·) := by
  have hcaret : readTokensWithin? (budget + 2) {} ("^(?:".toList ++ t) =
      (readTokensWithin? (budget + 1) {} ("(?:".toList ++ t)).map (.caret :: ·) :=
    readTokensWithin?_plain rfl rfl (budget + 1)
  have hopen : readTokensWithin? (budget + 1) {} ("(?:".toList ++ t) =
      (readTokensWithin? budget { outer := [false] } t).map (.groupOpen [] :: ·) :=
    readTokensWithin?_plain rfl rfl budget
  rw [hcaret, hopen, Option.map_map]
  rfl

/-- The head is read first, whatever follows it. -/
theorem readTokensWithin?_head (o : Options) (t : Text) (budget : Nat) :
    ∃ j, budget ≤ j ∧ readTokensWithin? (budget + (head o).length) {} (head o ++ t) =
      (readTokensWithin? j { outer := [false] } t).map (headTokens o ++ ·) := by
  obtain ⟨j, hj, hflags⟩ := readTokensWithin?_flags o ("^(?:".toList ++ t) (budget + 4)
  obtain ⟨j, rfl⟩ := Nat.exists_eq_add_of_le' (show 2 ≤ j by omega)
  refine ⟨j, by omega, ?_⟩
  have hlength : budget + (head o).length = budget + 4 + (flags o).length := by
    rw [head, List.length_append]
    show budget + ((flags o).length + 4) = _
    omega
  rw [hlength, head, List.append_assoc, hflags, readTokensWithin?_open, Option.map_map]
  congr 1
  funext ts
  exact (List.append_assoc _ _ ts).symm

theorem isTail_paren : IsTail [')'] :=
  ⟨[], rfl, by decide⟩

/-- A parenthesis by itself closes a group, however the groups around it are written. -/
theorem readTokensWithin?_paren {s : Surroundings} (hs : s.depth = 0) (budget : Nat) :
    readTokensWithin? (budget + 1) s [')'] = some [.groupClose] := by
  have hclose : s.readToken? [')'] = some (.groupClose, []) := by
    rw [Surroundings.readToken?, if_pos hs]
    rfl
  rw [readTokensWithin?_of_sign (skipSpread_tail _ isTail_paren), hclose]
  show (readTokensWithin? budget _ []).map _ = _
  rw [readTokensWithin?_of_blank rfl]
  exact congrArg (Option.map _) (if_pos hs)

/-- Nothing in the tail is a blank or begins a comment, so it reads the same however the groups
around it are written. -/
theorem readTokensWithin?_tail {s : Surroundings} (hs : s.depth = 0) (budget : Nat) :
    readTokensWithin? (budget + 4) s tail = some tailTokens := by
  have hclose : s.readToken? tail = some (.groupClose, "\\n?$".toList) := by
    rw [Surroundings.readToken?, if_pos hs]
    rfl
  have hrest : ∀ verbose outer,
      readTokensWithin? (budget + 3) ⟨0, verbose, outer⟩ "\\n?$".toList =
        some [.item (.literal '\n'), .repetition 0 (some 1) false, .dollar] := by
    intro verbose outer
    rcases verbose with _ | _
    all_goals
      rw [readTokensWithin?_of_sign (c := '\\') rfl]
      show (readTokensWithin? (budget + 2) _ ['?', '$']).map _ = _
      rw [readTokensWithin?_of_sign (c := '?') rfl]
      show ((readTokensWithin? (budget + 1) _ ['$']).map _).map _ = _
      rw [readTokensWithin?_of_sign (c := '$') rfl]
      show (((readTokensWithin? budget _ []).map _).map _).map _ = _
      rw [readTokensWithin?_of_blank rfl]
      rfl
  have hskip : skipSpread s.verbose tail = ')' :: "\\n?$".toList := skipSpread_tail _ isTail_tail
  rw [readTokensWithin?_of_sign hskip, ← hskip, skipSpread_tail _ isTail_tail, hclose]
  show (readTokensWithin? (budget + 3) ⟨s.depth, s.outer.headD false, s.outer.tail⟩ _).map _ = _
  rw [hs, hrest]
  rfl

/-! ## The tree -/

/-- The frame around the pattern's group. -/
def headFrame (o : Options) : Frame where
  flags := startFlags o
  items := .assertion .textStart :: (flagTokens o).map fun _ => .empty
  repeatable := true

/-- The tree of a newline, which may be missing. -/
def newlineTree (o : Options) : Tree :=
  .repeated (.set ((startFlags o).foldCase (.char '\n')) .unicode 0) 0 (some 1) false

/-- The tree of a pattern between its anchors. -/
def anchored (o : Options) (t : Tree) : Tree :=
  .concat ((flagTokens o).map (fun _ => .empty) ++
    [.assertion .textStart, .group false t, newlineTree o, .assertion .textEnd])

/-- Behind the head the pattern is read as at the start of a text, inside one more group. -/
theorem run?_head (o : Options) :
    (Reading.start {}).run? (headTokens o) =
      some ((Reading.start (startFlags o)).within [headFrame o]) := by
  obtain ⟨i, s, _, _, _, _, _⟩ := o
  cases i <;> cases s <;> rfl

/-- The flags of the pattern end with its group: the tail is read under those of the head. -/
theorem finish?_tail (o : Options) (frame : Frame) (names : List Text)
    (hcaptures : frame.captures = false) :
    ((({ frame := frame, names := names } : Reading).within [headFrame o]).run? tailTokens).bind
      Reading.finish? = some (anchored o frame.close) := by
  obtain ⟨i, s, _, _, _, _, _⟩ := o
  obtain ⟨_, _, _, _, _⟩ := frame
  cases hcaptures
  cases i <;> cases s <;> rfl

/-- Whether a text ends in a comment: a parenthesis behind it is not read. -/
def EndsInComment (t : Text) : Prop :=
  readTokens? (t ++ [')']) = readTokens? t

instance (t : Text) : Decidable (EndsInComment t) :=
  inferInstanceAs (Decidable (_ = _))

/-- The expression is read as its head, its body and its tail, unless a comment takes the tail. -/
theorem readTokens?_expand (o : Options) (p : Text) {ts : List Token}
    (h : readTokens? (body o p) = some ts) :
    readTokens? (expand o p) =
      some (headTokens o ++ (ts ++ if EndsInComment (body o p) then [] else tailTokens)) := by
  -- the group around the pattern is not spread out, like the start of a text
  have halike : Surroundings.Alike { outer := [false] } {} := ⟨rfl, rfl, fun n => by cases n <;> rfl⟩
  have hts : readTokensWithin? (body o p).length { outer := [false] } (body o p) = some ts := by
    rw [readTokensWithin?_alike halike]
    exact h
  obtain ⟨j, hj, hhead⟩ := readTokensWithin?_head o (body o p ++ tail) ((body o p).length + 5)
  obtain ⟨k, rfl⟩ := Nat.exists_eq_add_of_le (show (body o p).length ≤ j by omega)
  have hexpand : readTokens? (expand o p) =
      (readTokensWithin? ((body o p).length + k) { outer := [false] } (body o p ++ tail)).map
        (headTokens o ++ ·) := by
    rw [← hhead, readTokens?, expand_eq]
    congr 1
    simp only [List.length_append]
    show _ + (_ + 5) = _
    omega
  have hparen : readTokens? (body o p ++ [')']) =
      readTokensWithin? ((body o p).length + 1) { outer := [false] } (body o p ++ [')']) := by
    rw [readTokensWithin?_alike halike, readTokens?, List.length_append]
    rfl
  have hdepth := readTokensWithin?_depth hts
  rw [hexpand]
  rcases readTokensWithin?_append_tail hts with hfollow | htaken
  -- a parenthesis behind the pattern is read as one more token
  · have hopen : ¬ EndsInComment (body o p) := by
      obtain ⟨l, hl, hfollow⟩ := hfollow [')'] isTail_paren 1
      obtain ⟨l, rfl⟩ := Nat.exists_eq_add_of_le' hl
      intro hcomment
      rw [EndsInComment, hparen, hfollow, h, readTokensWithin?_paren hdepth] at hcomment
      simp at hcomment
    obtain ⟨l, hl, hfollow⟩ := hfollow tail isTail_tail k
    obtain ⟨l, rfl⟩ := Nat.exists_eq_add_of_le' (show 4 ≤ l by omega)
    rw [hfollow, readTokensWithin?_tail hdepth, if_neg hopen]
    rfl
  · have hcomment : EndsInComment (body o p) := by
      unfold EndsInComment
      rw [hparen, htaken [')'] isTail_paren 1, h]
    rw [htaken tail isTail_tail k, if_pos hcomment, List.append_nil]
    rfl

/-- A pattern is read between its anchors as it is read by itself, unless it ends in a comment. -/
theorem readTree?_expand (o : Options) (p : Text) {tree : Tree}
    (h : readTree? (startFlags o) (body o p) = some tree) :
    readTree? {} (expand o p) =
      if EndsInComment (body o p) then none else some (anchored o tree) := by
  obtain ⟨ts, frame, names, hts, hr, hcaptures, rfl⟩ := readTree?_cases h
  rw [readTree?_eq, readTokens?_expand o p hts, Option.bind_some, Reading.run?_append, run?_head,
    Option.bind_some, Reading.run?_append, Reading.run?_within hr, Option.bind_some]
  by_cases hcomment : EndsInComment (body o p)
  · rw [if_pos hcomment, if_pos hcomment]
    rfl
  · rw [if_neg hcomment, if_neg hcomment, finish?_tail o frame names hcaptures]

/-! ## What the tree matches -/

/-- No character above the newline is one. -/
theorem ofNat_ne_newline {n : Nat} (hn : 10 < n) : Char.ofNat n ≠ '\n' := by
  intro he
  by_cases hvalid : n.isValidChar
  · rw [Char.ofNat, dif_pos hvalid] at he
    have hten : n = 10 := congrArg Char.toNat he
    omega
  · rw [Char.ofNat, dif_neg hvalid] at he
    cases he

/-- All letters come behind the newline. -/
theorem newline_lt_of_mem_caseRuns : ∀ r ∈ Unicode.caseRuns, 10 < r.first ∧ 10 < r.target := by
  decide +kernel

/-- Nothing else folds to a newline. -/
theorem foldCase_ne_newline {c : Char} (hc : c ≠ '\n') : Unicode.foldCase c ≠ '\n' := by
  unfold Unicode.foldCase
  cases hfind : Unicode.caseRuns.findSome? fun r => r.representative? c.toNat with
  | none =>
    rw [Option.getD_none, Char.ofNat_toNat]
    exact hc
  | some n =>
    obtain ⟨r, hr, hn⟩ := List.exists_of_findSome?_eq_some hfind
    unfold Unicode.CaseRun.representative? at hn
    split at hn
    · have hn := Option.some.inj hn
      have htarget := (newline_lt_of_mem_caseRuns r hr).2
      rw [Option.getD_some]
      exact ofNat_ne_newline (by omega)
    · cases hn

/-- A newline differs from no other character in case only. -/
theorem newline_not_mem_caseVariants {c : Char} (hc : c ≠ '\n') : '\n' ∉ Unicode.caseVariants c := by
  intro hmem
  rcases List.mem_cons.1 hmem with he | hmem
  · exact foldCase_ne_newline hc he.symm
  · obtain ⟨r, hr, he⟩ := List.mem_filterMap.1 hmem
    obtain ⟨m, hm, he⟩ := Option.map_eq_some_iff.1 he
    unfold Unicode.CaseRun.member? at hm
    simp only at hm
    split at hm
    · have hm := Option.some.inj hm
      have hfirst := (newline_lt_of_mem_caseRuns r hr).1
      exact ofNat_ne_newline (by omega) he
    · cases hm

theorem contains_newline_iff (o : Options) (c : Char) :
    ((startFlags o).foldCase (.char '\n')).contains c = true ↔ c = '\n' := by
  have hplain : (CharSet.char '\n').contains c = true ↔ c = '\n' := beq_iff_eq
  by_cases hi : (startFlags o).ignoreCase = true
  · have hfold : (startFlags o).foldCase (.char '\n') = .anyCase (.char '\n') := by
      unfold Flags.foldCase
      rw [if_pos hi]
      rfl
    rw [hfold]
    show ((CharSet.char '\n').contains c ||
      (Unicode.caseVariants c).any fun d => (CharSet.char '\n').contains d) = true ↔ _
    rw [Bool.or_eq_true, hplain, List.any_eq_true]
    refine ⟨fun h => h.elim id ?_, .inl⟩
    intro h
    obtain ⟨d, hd, he⟩ := h
    by_contra hc
    exact newline_not_mem_caseVariants hc (beq_iff_eq.1 he ▸ hd)
  · unfold Flags.foldCase
    rw [if_neg hi]
    exact hplain

/-- What may follow the pattern is one newline or nothing. -/
theorem matches_newlineTree_iff {o : Options} {before after : Option Char} {t : Text} :
    Matches (newlineTree o).regex before t after ↔ t = [] ∨ t = ['\n'] := by
  show Matches (.repeated (.chars _) 0 (some 1)) before t after ↔ _
  rw [matches_repeated_iff]
  constructor
  · intro h
    obtain ⟨n, -, hmost, hrounds⟩ := h
    have hn : n ≤ 1 := by simpa using hmost 1 rfl
    -- no round or one
    rcases Nat.le_one_iff_eq_zero_or_eq_one.1 hn with rfl | rfl
    · exact .inl (rounds_zero_iff.1 hrounds)
    · obtain ⟨s, u, rfl, hs, hu⟩ := rounds_succ_iff.1 hrounds
      obtain ⟨c, rfl, hc⟩ := matches_chars_iff.1 hs
      rw [rounds_zero_iff.1 hu, (contains_newline_iff o c).1 hc]
      exact .inr rfl
  · intro h
    rcases h with rfl | rfl
    · exact ⟨0, Nat.le_refl 0, fun e _ => Nat.zero_le _, rounds_zero_iff.2 rfl⟩
    · have hc := (contains_newline_iff o '\n').2 rfl
      refine ⟨1, Nat.zero_le 1, fun e he => ?_, ?_⟩
      · cases he
        exact Nat.le_refl 1
      · exact rounds_succ_iff.2 ⟨['\n'], [], rfl, .chars hc, rounds_zero_iff.2 rfl⟩

/-- The text is one that the expression matches, but for one newline at the end.  What the
expression demands of a place is judged by the whole text. -/
def FullMatch (r : Regex) (x : Text) : Prop :=
  ∃ u v, x = u ++ v ∧ (v = [] ∨ v = ['\n']) ∧ Matches r none u (neighbour v none)

theorem matches_empty_seq_iff {r : Regex} {before after : Option Char} {x : Text} :
    Matches (.seq .empty r) before x after ↔ Matches r before x after := by
  rw [matches_seq_iff]
  constructor
  · intro h
    obtain ⟨s, u, rfl, hs, hu⟩ := h
    cases matches_empty_iff.1 hs
    exact hu
  · intro h
    exact ⟨[], x, rfl, .empty, h⟩

/-- The flags before the anchor match the empty text, wherever they stand. -/
theorem matches_anchored_iff {o : Options} {t : Tree} {before after : Option Char} {x : Text} :
    Matches (anchored o t).regex before x after ↔
      Matches (.seq (.assertion .textStart) (.seq t.regex
        (.seq (newlineTree o).regex (.assertion .textEnd)))) before x after := by
  obtain ⟨i, s, _, _, _, _, _⟩ := o
  rcases i <;> rcases s
  · exact Iff.rfl
  all_goals exact matches_empty_seq_iff

/-- The anchors leave the pattern all of the text but for one newline at the end. -/
theorem matchesIn_anchored_iff {o : Options} {t : Tree} {x : Text} :
    MatchesIn (anchored o t).regex x ↔ FullMatch t.regex x := by
  constructor
  · intro h
    obtain ⟨s, u, v, rfl, h⟩ := h
    obtain ⟨s', u', rfl, hstart, h⟩ := matches_seq_iff.1 (matches_anchored_iff.1 h)
    obtain ⟨u, w, rfl, hu, h⟩ := matches_seq_iff.1 h
    obtain ⟨w, v', rfl, hw, hend⟩ := matches_seq_iff.1 h
    obtain ⟨rfl, hbefore⟩ := matches_assertion_iff.1 hstart
    obtain ⟨rfl, hafter⟩ := matches_assertion_iff.1 hend
    -- the anchors hold only at the two ends of the text
    have hs : s = [] := by simpa [Assertion.holds, lastOf] using hbefore
    have hv : v = [] := by simpa [Assertion.holds, neighbour] using hafter
    subst hs hv
    refine ⟨u, w, by simp, matches_newlineTree_iff.1 hw, ?_⟩
    simpa using hu
  · intro h
    obtain ⟨u, v, rfl, hv, h⟩ := h
    refine ⟨[], u ++ v, [], by simp, matches_anchored_iff.2 ?_⟩
    have hend : Matches (.seq (newlineTree o).regex (.assertion .textEnd)) (lastOf none u) v none :=
      matches_seq_iff.2 ⟨v, [], by simp, matches_newlineTree_iff.2 hv, .assertion rfl⟩
    have hrest := matches_seq_iff.2 ⟨u, v, rfl, h, hend⟩
    exact matches_seq_iff.2 ⟨[], u ++ v, rfl, .assertion rfl, hrest⟩

end AnswerKey.Pattern
