import HighlightCheck.Proofs.Action
import HighlightCheck.Proofs.Emission
import HighlightCheck.Proofs.Search
import HighlightCheck.Tokenizer.Fixed

/-!
# The outcome of a check

What a check says of the tokens that a tokenizer gave, whatever they are: their ranges may be
reversed, lie outside the code, overlap or cut a character in two.

* `Token.StandAt`: the places of tokens that resolve to the expected spans.
* `Mismatch.Explains`: what a failed check says, field by field.
* `compare_eq_ok_iff_standAt`, `explains_of_compare_eq_error`: a comparison passes exactly if there
  are such places, and its failure explains why there are none.
* `check_correct`: the outcome of a check, and the one record it emits.
-/

namespace HighlightCheck

open Subsequence

/-! ## Tokens at places -/

namespace Token

/-- `places` go up, and the tokens there resolve to the kinds and texts of `expected`. -/
structure StandAt (code : String) (tokens : List Token) (expected : List Span)
    (places : List Nat) : Prop where
  increasing : places.Pairwise (· < ·)
  resolved : List.Forall₂ (fun place wanted => ∃ token, tokens[place]? = some token ∧
    (token.resolve code).kind = wanted.kind ∧ (token.resolve code).text = wanted.text)
    places expected

variable {code : String} {tokens : List Token} {expected : List Span} {places : List Nat}

theorem resolveAll_getElem?_eq_iff {place : Nat} {wanted : Span} :
    (∃ x, (resolveAll code tokens)[place]? = some x ∧ (x == wanted) = true) ↔
      ∃ token, tokens[place]? = some token ∧ (token.resolve code).kind = wanted.kind ∧
        (token.resolve code).text = wanted.text := by
  simp only [resolveAll, List.getElem?_map, Option.map_eq_some_iff, beq_iff_eq]
  constructor
  · rintro ⟨_, ⟨token, ht, rfl⟩, rfl⟩
    exact ⟨token, ht, rfl, rfl⟩
  · rintro ⟨token, ht, hkind, htext⟩
    refine ⟨token.resolve code, ⟨token, ht, rfl⟩, ?_⟩
    rcases hs : token.resolve code with ⟨kind, text⟩
    rw [hs] at hkind htext
    subst hkind htext
    rfl

theorem standAt_iff_fits :
    StandAt code tokens expected places ↔
      Fits (· == ·) (resolveAll code tokens) expected places := by
  constructor
  · rintro ⟨hinc, hres⟩
    exact ⟨hinc, hres.imp fun _ _ h => resolveAll_getElem?_eq_iff.mpr h⟩
  · rintro ⟨hinc, hitems⟩
    exact ⟨hinc, hitems.imp fun _ _ h => resolveAll_getElem?_eq_iff.mp h⟩

/-- Places of tokens and places of resolved spans are the same. -/
theorem standAt_eq_fits :
    StandAt code tokens expected = Fits (· == ·) (resolveAll code tokens) expected :=
  funext fun _ => propext standAt_iff_fits

theorem exists_standAt_iff_embeds :
    (∃ places, StandAt code tokens expected places) ↔
      Embeds (· == ·) (resolveAll code tokens) expected := by
  rw [standAt_eq_fits]
  rfl

end Token

open Token

/-! ## Failures -/

namespace Mismatch

/-- What a failure says of the tokens that were found and of those that were expected. -/
structure Explains (f : Mismatch) (code : String) (tokens : List Token)
    (expected : List Span) : Prop where
  code_eq : f.code = code
  count_eq : f.expectedCount = expected.length
  index_lt : f.expectedIndex < expected.length
  /-- Exactly so many expected spans can be found in order. -/
  longest : IsGreatest
    {n | n ≤ expected.length ∧ ∃ places, StandAt code tokens (expected.take n) places}
    f.expectedIndex
  missing_eq : expected[f.expectedIndex]? = some f.missing
  actual_eq : f.actual = resolveAll code tokens
  offset_zero : f.expectedIndex = 0 → f.searchOffset = 0
  /-- The search stopped at the end of the last token of the leftmost places, as the tokenizer gave
  it. -/
  offset_stop : 0 < f.expectedIndex → ∃ places last token,
    Leftmost (StandAt code tokens (expected.take f.expectedIndex)) places ∧
      places.getLast? = some last ∧ tokens[last]? = some token ∧ f.searchOffset = token.stop

variable {code : String} {tokens : List Token} {expected : List Span} {f : Mismatch}

theorem compare_eq_ok_iff_standAt :
    compare code tokens expected = .ok () ↔ ∃ places, StandAt code tokens expected places := by
  rw [compare_ok_iff, exists_find_eq_ok_iff, exists_standAt_iff_embeds]

theorem searchOffsetAfter_reach {last : Nat} {token : Token} {init : List Nat}
    (h : tokens[last]? = some token) :
    searchOffsetAfter tokens (reach (init ++ [last])) = token.stop := by
  rw [reach_concat, searchOffsetAfter, h]
  rfl

/-- The offset of a search that has found something is the stop of the last token taken. -/
theorem exists_searchOffsetAfter_eq {passed : Nat} (hne : expected ≠ [])
    (h : find (· == ·) (resolveAll code tokens) expected = .ok passed) :
    ∃ places last token, Leftmost (StandAt code tokens expected) places ∧
      places.getLast? = some last ∧ tokens[last]? = some token ∧
      searchOffsetAfter tokens passed = token.stop := by
  obtain ⟨places, hleft, rfl⟩ := exists_leftmost_of_find_eq_ok h
  rcases List.eq_nil_or_concat places with rfl | ⟨init, last, rfl⟩
  · cases hleft.1.items
    exact absurd rfl hne
  · rw [List.concat_eq_append] at hleft ⊢
    have hlt := hleft.1.lt_length (List.mem_append_right init (List.mem_singleton_self last))
    rw [length_resolveAll] at hlt
    have ht := List.getElem?_eq_getElem hlt
    refine ⟨init ++ [last], last, tokens[last], ?_, List.getLast?_concat, ht,
      searchOffsetAfter_reach ht⟩
    rwa [standAt_eq_fits]

/-- A failure says how many of the expected spans can be found, and where the next one was looked
for in vain. -/
theorem explains_of_compare_eq_error (h : compare code tokens expected = .error f) :
    f.Explains code tokens expected := by
  obtain ⟨m, hm, rfl⟩ := compare_error_iff.mp h
  obtain ⟨hlt, hgreatest⟩ := isGreatest_of_find_eq_error hm
  obtain ⟨wanted, hget, hok, -⟩ := find_eq_error_iff.mp hm
  refine ⟨rfl, rfl, hlt, ?_, ?_, rfl, fun hzero => ?_, fun hpos => ?_⟩
  · simp only [exists_standAt_iff_embeds]
    exact hgreatest
  · show expected[m.expectedIndex]? = some (expected.getD m.expectedIndex .unresolved)
    rw [List.getD_eq_getElem?_getD, hget]
    rfl
  · have hzero : m.expectedIndex = 0 := hzero
    rw [hzero, List.take_zero, find_nil, Except.ok.injEq] at hok
    show searchOffsetAfter tokens m.passed = 0
    rw [← hok]
    rfl
  · have hpos : 0 < m.expectedIndex := hpos
    refine exists_searchOffsetAfter_eq (fun hnil => ?_) hok
    have hlen := congrArg List.length hnil
    rw [List.length_take, List.length_nil] at hlen
    omega

end Mismatch

/-! ## Checks -/

namespace Tokenizer

theorem level_verdict (t : Tokenizer) (code : String) (expected : List Span)
    (tokens : List Token) :
    (t.verdict code expected tokens).level =
      match Mismatch.compare code tokens expected with
      | .ok _ => .debug
      | .error _ => .warn := by
  unfold verdict
  cases Mismatch.compare code tokens expected <;> rfl

/-- **Correctness of checks.** Whatever tokens there are, a check ends in no fault. It passes exactly
if they hold the expected spans in order; if not, its failure explains that. It emits one record,
which tells by its level how the check ended, and changes nothing else. -/
theorem check_correct {t : Tokenizer} {code : String} {expected : List Span} {h : Host}
    {tokens : List Token} (ht : t.tokenize h.setting code = .ok tokens)
    (hr : h.log.Reliable) :
    ∃ outcome record,
      t.check code expected h = (.ok outcome, { h with log := (h.log.emit record).2 }) ∧
      (outcome = .ok () ↔ ∃ places, StandAt code tokens expected places) ∧
      (∀ f, outcome = .error f → f.Explains code tokens expected) ∧
      (record.level = match outcome with
        | .ok _ => .debug
        | .error _ => .warn) ∧
      (h.log.emit record).2.deliveries =
        h.log.deliveries ++ (h.log.receiver.map (h.log.delivery record)).toList := by
  refine ⟨Mismatch.compare code tokens expected, t.verdict code expected tokens, ?_,
    Mismatch.compare_eq_ok_iff_standAt, fun f hf => Mismatch.explains_of_compare_eq_error hf,
    t.level_verdict code expected tokens, h.log.deliveries_emit _⟩
  rw [check_apply ht, LogSlot.emit_of_reliable hr]
  rfl

/-- Tokens of which the second is reversed, the third cuts a character in two, and the last lies
outside the code. -/
def malformed : List Token :=
  [⟨.keyword, 0, 2⟩, ⟨.name, 4, 2⟩, ⟨.string, 3, 4⟩, ⟨.keyword, 0, 2⟩, ⟨.error, 40, 50⟩]

/-- A host on which every record is kept. -/
def listening : Host :=
  { Host.fresh .empty with log := LogSlot.empty.set (.collector none .debug none) }

theorem listening_reliable : listening.log.Reliable := by
  refine LogSlot.reliable_of_listener fun l hl => ?_
  cases hl
  exact Listener.collector_reliable none .debug

theorem check_correct_of_malformed :
    ∃ outcome record,
      (fixed "plain" [] malformed).check "if é" [.unresolved, ⟨.keyword, "if"⟩, .unresolved]
          listening =
        (.ok outcome, { listening with log := (listening.log.emit record).2 }) ∧
      (outcome = .ok () ↔
        ∃ places, StandAt "if é" malformed [.unresolved, ⟨.keyword, "if"⟩, .unresolved] places) ∧
      (∀ f, outcome = .error f →
        f.Explains "if é" malformed [.unresolved, ⟨.keyword, "if"⟩, .unresolved]) ∧
      (record.level = match outcome with
        | .ok _ => .debug
        | .error _ => .warn) ∧
      (listening.log.emit record).2.deliveries =
        listening.log.deliveries ++
          (listening.log.receiver.map (listening.log.delivery record)).toList :=
  check_correct rfl listening_reliable

end Tokenizer

end HighlightCheck
