import HighlightCheck.Proofs.CaretPlace
import HighlightCheck.Proofs.Report

/-!
# Where a failed search began

A tokenizer promises tokens in order: each one starts at or behind the stop of the one before it, and
none cuts a character in two. Tokens may be empty, and there may be gaps between them. The byte that a
failed check gives then parts such tokens in two: those that the search had passed, and those in which
the missing span was looked for.

* `Token.Orderly`: what a tokenizer promises of its tokens.
* `Orderly.stop_le_searchOffsetAfter`, `Orderly.searchOffsetAfter_le_start`: the tokens on the two
  sides of a search offset.
* `Text.offset_placeBefore`: a cut is found as it is, neither clamped nor rounded.
* `Tokenizer.exists_around_of_check`: the place of a failed check in the code around its offset.
* `Tokenizer.search_splits_tokens`: what the offset of a failed check says of the tokens.
-/

namespace HighlightCheck

namespace Text

variable {s : String} {n : Nat}

/-- The place of a cut is the cut. -/
theorem offset_placeBefore (h : IsCut s n) : (placeBefore s n).offset.byteIdx = n := by
  obtain ⟨a, b, rfl, rfl⟩ := h
  have hsplit : ((a ++ b).sliceTo (placeBefore (a ++ b) a.utf8ByteSize)).copy = a :=
    congrArg Prod.fst (splitAt_of_append a b)
  have hplace := (placeBefore (a ++ b) a.utf8ByteSize).splits.offset_eq_rawEndPos
  rw [hsplit] at hplace
  rw [hplace, String.byteIdx_rawEndPos]

end Text

open Text (IsCut)

/-! ## Tokens in order -/

namespace Token

/-- The tokens are in order and do not overlap, and no start or stop falls inside a character or past
the end of the code. -/
structure Orderly (code : String) (tokens : List Token) : Prop where
  ordered : tokens.IsChain fun t u => t.stop ≤ u.start
  sliced : ∀ t ∈ tokens, t.start ≤ t.stop ∧ IsCut code t.start ∧ IsCut code t.stop

variable {code : String} {tokens : List Token} {t u : Token} {passed : Nat}

namespace Orderly

/-- Of any two tokens, and not only of neighbours, the later one starts at or behind the stop of the
earlier one. -/
theorem pairwise (h : Orderly code tokens) : tokens.Pairwise fun t u => t.stop ≤ u.start := by
  -- The order of neighbours alone is not transitive: it takes `u.start ≤ u.stop` to get past `u`.
  have hchain : tokens.IsChain fun t u => t.stop ≤ u.start ∧ u.start ≤ u.stop := by
    apply h.ordered.imp_of_mem_imp
    intro t u _ hu hle
    exact ⟨hle, (h.sliced u hu).1⟩
  have htrans : IsTrans Token fun t u => t.stop ≤ u.start ∧ u.start ≤ u.stop := by
    constructor
    intro t u v htu huv
    omega
  exact hchain.pairwise.imp And.left

theorem stop_le_searchOffsetAfter (h : Orderly code tokens) (hpassed : passed ≤ tokens.length)
    (hu : u ∈ tokens.take passed) : u.stop ≤ Mismatch.searchOffsetAfter tokens passed := by
  cases passed with
  | zero => simp at hu
  | succ n =>
    have hlast := List.getElem?_eq_getElem hpassed
    have hle := (h.sliced _ (List.mem_of_getElem? hlast)).1
    have hpair := h.pairwise.sublist (List.take_sublist (n + 1) tokens)
    rw [Mismatch.searchOffsetAfter, hlast]
    rw [List.take_add_one, hlast, Option.toList_some] at hu hpair
    show u.stop ≤ tokens[n].stop
    rcases List.mem_append.mp hu with hu | hu
    · have hstart := (List.pairwise_append.mp hpair).2.2 u hu _ (List.mem_singleton_self _)
      omega
    · rw [List.mem_singleton.mp hu]

theorem searchOffsetAfter_le_start (h : Orderly code tokens) (hpassed : passed ≤ tokens.length)
    (hu : u ∈ tokens.drop passed) : Mismatch.searchOffsetAfter tokens passed ≤ u.start := by
  cases passed with
  | zero => exact Nat.zero_le _
  | succ n =>
    have hlast := List.getElem?_eq_getElem hpassed
    have hmem : tokens[n] ∈ tokens.take (n + 1) := by
      rw [List.take_add_one, hlast]
      exact List.mem_append_right _ (List.mem_singleton_self _)
    have hpair := h.pairwise
    rw [← List.take_append_drop (n + 1) tokens] at hpair
    rw [Mismatch.searchOffsetAfter, hlast]
    exact (List.pairwise_append.mp hpair).2.2 _ hmem u hu

theorem isCut_searchOffsetAfter (h : Orderly code tokens) (passed : Nat) :
    IsCut code (Mismatch.searchOffsetAfter tokens passed) := by
  cases passed with
  | zero => exact Text.isCut_zero code
  | succ n =>
    rw [Mismatch.searchOffsetAfter]
    cases hlast : tokens[n]? with
    | none => exact Text.isCut_zero code
    | some t => exact (h.sliced t (List.mem_of_getElem? hlast)).2.2

end Orderly

end Token

open Token

/-! ## Failed searches -/

namespace Mismatch

variable {code : String} {tokens : List Token} {expected : List Span} {f : Mismatch}

/-- A failed comparison comes of a search that had passed some of the tokens, and did not find the
missing span in the others. -/
theorem exists_passed_of_compare_eq_error (h : compare code tokens expected = .error f) :
    ∃ passed,
      Subsequence.find (· == ·) (resolveAll code tokens) expected =
        .error ⟨f.expectedIndex, passed⟩ ∧
      passed ≤ tokens.length ∧ f.searchOffset = searchOffsetAfter tokens passed ∧
      ∀ u ∈ tokens.drop passed, u.resolve code ≠ f.missing := by
  obtain ⟨m, hm, rfl⟩ := compare_error_iff.mp h
  obtain ⟨wanted, hget, hok, hnone⟩ := Subsequence.find_eq_error_iff.mp hm
  have hpassed := (Subsequence.isLeast_of_find_eq_ok hok).1.1
  rw [length_resolveAll] at hpassed
  refine ⟨m.passed, hm, hpassed, rfl, ?_⟩
  intro u hu hmissing
  have hmem : u.resolve code ∈ (resolveAll code tokens).drop m.passed := by
    rw [resolveAll, ← List.map_drop]
    exact List.mem_map_of_mem hu
  have hwanted : (ofMissing code tokens expected m).missing = wanted := by
    show expected.getD m.expectedIndex .unresolved = wanted
    rw [List.getD_eq_getElem?_getD, hget]
    rfl
  have hne := List.findIdx?_eq_none_iff.mp hnone _ hmem
  rw [hmissing, hwanted, beq_self_eq_true] at hne
  cases hne

end Mismatch

namespace Tokenizer

variable {t : Tokenizer} {code : String} {expected : List Span} {h : Host} {tokens : List Token}
  {f : Mismatch}

/-- If the tokens are in order, the place of a failed check is that of the code around its offset. -/
theorem exists_around_of_check (ht : t.tokenize h.setting code = .ok tokens)
    (hordered : Orderly code tokens) (hf : (t.check code expected h).1 = .ok (.error f)) :
    ∃ front head tail rest, Place.Around code f.searchOffset front head tail rest ∧
      f.place = ⟨String.ofList (Place.dropReturns (head ++ tail)), Text.width head⟩ := by
  have hcompare := compare_of_check_eq_error ht hf
  have hcode := (Mismatch.explains_of_compare_eq_error hcompare).code_eq
  obtain ⟨passed, -, -, hoffset, -⟩ := Mismatch.exists_passed_of_compare_eq_error hcompare
  have hsearch : Text.IsCut code f.searchOffset := by
    rw [hoffset]
    exact hordered.isCut_searchOffsetAfter passed
  obtain ⟨cut, front, head, tail, rest, hcut, haround, hplace⟩ :=
    Place.ofOffset_eq code f.searchOffset
  -- The offset is a cut, so going back from it stays there.
  rw [Nat.min_eq_left hsearch.le_utf8ByteSize] at hcut
  obtain rfl : f.searchOffset = cut := hsearch.isGreatest.unique hcut
  refine ⟨front, head, tail, rest, haround, ?_⟩
  rw [Mismatch.place, hcode, hplace]

/-- **Where a failed search began.** If the tokens are in order, the offset of a failed check is a cut
of the code that parts them where the search began: the tokens that were passed stop before it or at
it, and the others start at it or behind it, and none of them is the missing one. So the place of
the failure is the cut itself, neither clamped nor rounded: its caret stands between the code of the
former and that of the latter. Its line is the piece of the code, split at line feeds, that holds the
cut, without the returns at its end, and its column is the width of that piece up to the cut. -/
theorem search_splits_tokens (ht : t.tokenize h.setting code = .ok tokens)
    (hordered : Orderly code tokens) (hf : (t.check code expected h).1 = .ok (.error f)) :
    ∃ passed,
      Subsequence.find (· == ·) (resolveAll code tokens) expected =
        .error ⟨f.expectedIndex, passed⟩ ∧
      passed ≤ tokens.length ∧
      IsCut code f.searchOffset ∧ f.searchOffset ≤ code.utf8ByteSize ∧
      (∀ u ∈ tokens.take passed, u.stop ≤ f.searchOffset) ∧
      (∀ u ∈ tokens.drop passed, f.searchOffset ≤ u.start ∧ u.resolve code ≠ f.missing) ∧
      (Text.placeBefore code f.searchOffset).offset.byteIdx = f.searchOffset ∧
      ∃ before after piece start,
        code = before ++ after ∧ before.utf8ByteSize = f.searchOffset ∧
        f.place = .between before.toList after.toList ∧
        (Text.split '\n' code)[before.toList.count '\n']? = some piece ∧
        Text.slice? code (Text.pieceStart '\n' code (before.toList.count '\n')) f.searchOffset =
          some start ∧
        (∃ n, piece = f.place.line ++ String.ofList (List.replicate n '\r')) ∧
        f.place.line.toList.getLast? ≠ some '\r' ∧
        f.place.column = Text.width start.toList := by
  have hcompare := compare_of_check_eq_error ht hf
  obtain ⟨passed, hfind, hpassed, hoffset, hmissing⟩ :=
    Mismatch.exists_passed_of_compare_eq_error hcompare
  have hcut : IsCut code f.searchOffset := by
    rw [hoffset]
    exact hordered.isCut_searchOffsetAfter passed
  refine ⟨passed, hfind, hpassed, hcut, hcut.le_utf8ByteSize, fun u hu => ?_, fun u hu => ?_,
    Text.offset_placeBefore hcut, ?_⟩
  · rw [hoffset]
    exact hordered.stop_le_searchOffsetAfter hpassed hu
  · refine ⟨?_, hmissing u hu⟩
    rw [hoffset]
    exact hordered.searchOffsetAfter_le_start hpassed hu
  · obtain ⟨front, head, tail, rest, haround, hplace⟩ := exists_around_of_check ht hordered hf
    obtain ⟨before, piece, start, hbefore, hpiece, hstart, hline, hlast, hcolumn⟩ :=
      haround.line_and_column hplace
    obtain ⟨empty, after, hcodes, hempty, hsize⟩ := Text.slice?_eq_some_iff.mp hbefore
    obtain rfl := String.utf8ByteSize_eq_zero_iff.mp hempty.symm
    rw [String.empty_append] at hcodes
    rw [Nat.zero_add] at hsize
    refine ⟨before, after, piece, start, hcodes, hsize.symm, ?_, hpiece, hstart, hline, hlast,
      hcolumn⟩
    have hcode := (Mismatch.explains_of_compare_eq_error hcompare).code_eq
    rw [Mismatch.place, hcode, hsize, Place.ofOffset, hcodes, Text.splitAt_of_append]

/-- Tokens of which the second is empty, with a gap on either side of the third. -/
def gapped : List Token :=
  [⟨.keyword, 0, 2⟩, ⟨.text, 2, 2⟩, ⟨.name, 3, 5⟩, ⟨.text, 6, 7⟩]

theorem orderly_gapped : Orderly "if é x" gapped where
  ordered := by decide
  sliced := by
    have hcut (a b : String) (h : a ++ b = "if é x") : IsCut "if é x" a.utf8ByteSize :=
      ⟨a, b, h.symm, rfl⟩
    intro t ht
    simp only [gapped, List.mem_cons, List.not_mem_nil, or_false] at ht
    rcases ht with rfl | rfl | rfl | rfl
    · exact ⟨by decide, hcut "" "if é x" rfl, hcut "if" " é x" rfl⟩
    · exact ⟨by decide, hcut "if" " é x" rfl, hcut "if" " é x" rfl⟩
    · exact ⟨by decide, hcut "if " "é x" rfl, hcut "if é" " x" rfl⟩
    · exact ⟨by decide, hcut "if é " "x" rfl, hcut "if é x" "" rfl⟩

/-- The failure of a check of those tokens: the third is found, and then the first is not found any
more. -/
def gappedMismatch : Mismatch where
  code := "if é x"
  missing := ⟨.keyword, "if"⟩
  expectedIndex := 1
  expectedCount := 2
  searchOffset := 5
  actual := [⟨.keyword, "if"⟩, ⟨.text, ""⟩, ⟨.name, "é"⟩, ⟨.text, "x"⟩]

theorem check_gapped :
    ((fixed "plain" [] gapped).check "if é x" [⟨.name, "é"⟩, ⟨.keyword, "if"⟩]
      (Host.fresh .empty)).1 = .ok (.error gappedMismatch) := by
  decide +kernel

/-- The search for the missing span began behind the name, in front of the gap. -/
theorem search_splits_tokens_of_gapped :
    Orderly "if é x" gapped ∧
    ((fixed "plain" [] gapped).check "if é x" [⟨.name, "é"⟩, ⟨.keyword, "if"⟩]
      (Host.fresh .empty)).1 = .ok (.error gappedMismatch) ∧
    ∃ passed,
      Subsequence.find (· == ·) (resolveAll "if é x" gapped) [⟨.name, "é"⟩, ⟨.keyword, "if"⟩] =
        .error ⟨1, passed⟩ ∧
      passed ≤ gapped.length ∧
      IsCut "if é x" 5 ∧ 5 ≤ "if é x".utf8ByteSize ∧
      (∀ u ∈ gapped.take passed, u.stop ≤ 5) ∧
      (∀ u ∈ gapped.drop passed, 5 ≤ u.start ∧ u.resolve "if é x" ≠ ⟨.keyword, "if"⟩) ∧
      (Text.placeBefore "if é x" 5).offset.byteIdx = 5 ∧
      ∃ before after piece start,
        "if é x" = before ++ after ∧ before.utf8ByteSize = 5 ∧
        gappedMismatch.place = .between before.toList after.toList ∧
        (Text.split '\n' "if é x")[before.toList.count '\n']? = some piece ∧
        Text.slice? "if é x" (Text.pieceStart '\n' "if é x" (before.toList.count '\n')) 5 =
          some start ∧
        (∃ n, piece = gappedMismatch.place.line ++ String.ofList (List.replicate n '\r')) ∧
        gappedMismatch.place.line.toList.getLast? ≠ some '\r' ∧
        gappedMismatch.place.column = Text.width start.toList :=
  ⟨orderly_gapped, check_gapped, search_splits_tokens rfl orderly_gapped check_gapped⟩

end Tokenizer

end HighlightCheck
