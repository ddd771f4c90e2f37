import HighlightCheck.Proofs.Embedding
import Mathlib.Data.List.Induction

/-!
# The search for expected items

`find` takes the first actual item that will do, one expected item after the other, and never goes
back. It loses nothing by that: the places it takes are the leftmost embedding.

* `find_append`: a search goes on where the one for its beginning has stopped.
* `find_concat_eq_ok_iff`, `find_eq_error_iff`: one more expected item, and the item that a failed
  search misses.
* `exists_leftmost_of_find_eq_ok`: a search that succeeds ends at the reach of the leftmost
  embedding.
* `exists_find_eq_ok_iff_sublist`: a search for items themselves succeeds on their sublists.
* `scan_eq_find`: the same search by a cursor, which never leaves the actual items.
* `find_correct`: the outcome of a search in terms of embeddings alone.
-/

namespace HighlightCheck.Subsequence

/-- The search by a cursor into `actual`, when `index` expected items have been found. What is left
of `actual` is cut off at the cursor; there is no outcome if that is past the end. -/
def scan {α : Type} (same : α → α → Bool) (actual : List α) :
    (index cursor : Nat) → List α → Option (Except Missing Nat)
  | _, cursor, [] => some (.ok cursor)
  | index, cursor, wanted :: expected =>
    if cursor ≤ actual.length then
      match (actual.drop cursor).findIdx? (same · wanted) with
      | none => some (.error ⟨index, cursor⟩)
      | some k => scan same actual (index + 1) (cursor + k + 1) expected
    else none

variable {α : Type} {same : α → α → Bool} {actual expected : List α} {wanted : α}

/-! ## Searches one after the other -/

@[simp] theorem shift_zero (r : Except Missing Nat) : shift 0 0 r = r := by
  cases r <;> rfl

theorem shift_shift (found passed found' passed' : Nat) (r : Except Missing Nat) :
    shift found passed (shift found' passed' r) = shift (found' + found) (passed' + passed) r := by
  cases r <;> simp [shift, Nat.add_assoc]

/-- A search for more items is the search for the first ones and then, behind the last item taken,
the search for the others. -/
theorem find_append (same : α → α → Bool) (actual first rest : List α) :
    find same actual (first ++ rest) =
      match find same actual first with
      | .error m => .error m
      | .ok cursor => shift first.length cursor (find same (actual.drop cursor) rest) := by
  induction first generalizing actual with
  | nil => simp
  | cons wanted first ih =>
    rw [List.cons_append]
    cases hk : actual.findIdx? (same · wanted) with
    | none => rw [find_cons_of_none hk, find_cons_of_none hk]
    | some k =>
      rw [find_cons_of_some hk, find_cons_of_some hk, ih]
      cases find same (actual.drop (k + 1)) first with
      | error m => rfl
      | ok cursor =>
        show shift 1 (k + 1) (shift first.length cursor _) =
          shift (first.length + 1) (cursor + (k + 1)) _
        rw [shift_shift, List.drop_drop, Nat.add_comm (k + 1) cursor]

theorem find_append_of_ok {first rest : List α} {cursor : Nat}
    (h : find same actual first = .ok cursor) :
    find same actual (first ++ rest) =
      shift first.length cursor (find same (actual.drop cursor) rest) := by
  rw [find_append, h]

theorem find_append_of_error {first rest : List α} {m : Missing}
    (h : find same actual first = .error m) : find same actual (first ++ rest) = .error m := by
  rw [find_append, h]

/-- One more expected item is found at the first place from the cursor on. -/
theorem find_concat_eq_ok_iff {c : Nat} :
    find same actual (expected ++ [wanted]) = .ok c ↔
      ∃ cursor k, find same actual expected = .ok cursor ∧
        (actual.drop cursor).findIdx? (same · wanted) = some k ∧ cursor + k + 1 = c := by
  cases hf : find same actual expected with
  | error m => simp [find_append_of_error hf]
  | ok cursor =>
    rw [find_append_of_ok hf]
    cases hk : (actual.drop cursor).findIdx? (same · wanted) with
    | none => simp [find_cons_of_none hk, shift, hk]
    | some k =>
      simp only [find_cons_of_some hk, find_nil, shift, Except.ok.injEq]
      constructor
      · rintro rfl
        exact ⟨cursor, k, rfl, hk, by omega⟩
      · rintro ⟨_, k', rfl, hk', rfl⟩
        rw [hk, Option.some.injEq] at hk'
        omega

/-- A search fails at the first expected item that is not found from the cursor on. -/
theorem find_eq_error_iff {m : Missing} :
    find same actual expected = .error m ↔
      ∃ wanted, expected[m.expectedIndex]? = some wanted ∧
        find same actual (expected.take m.expectedIndex) = .ok m.passed ∧
        (actual.drop m.passed).findIdx? (same · wanted) = none := by
  constructor
  · intro h
    induction expected using List.reverseRecOn with
    | nil => cases h
    | append_singleton expected last ih =>
      cases hf : find same actual expected with
      | error m' =>
        rw [find_append_of_error hf, Except.error.injEq] at h
        subst h
        obtain ⟨wanted, hget, hok, hnone⟩ := ih hf
        obtain ⟨hlt, -⟩ := List.getElem?_eq_some_iff.mp hget
        refine ⟨wanted, by rw [List.getElem?_append_left hlt, hget], ?_, hnone⟩
        rw [List.take_append_of_le_length (Nat.le_of_lt hlt), hok]
      | ok cursor =>
        rw [find_append_of_ok hf] at h
        cases hk : (actual.drop cursor).findIdx? (same · last) with
        | some k =>
          rw [find_cons_of_some hk] at h
          cases h
        | none =>
          rw [find_cons_of_none hk] at h
          simp only [shift, Nat.zero_add, Except.error.injEq] at h
          subst h
          exact ⟨last, by simp, by simpa using hf, hk⟩
  · rintro ⟨wanted, hget, hok, hnone⟩
    obtain ⟨hlt, hw⟩ := List.getElem?_eq_some_iff.mp hget
    have hlen : (expected.take m.expectedIndex).length = m.expectedIndex := by
      rw [List.length_take]
      omega
    have hsplit : expected.take m.expectedIndex ++ wanted :: expected.drop (m.expectedIndex + 1) =
        expected := by
      rw [← hw, ← List.drop_eq_getElem_cons hlt, List.take_append_drop]
    rw [← hsplit, find_append_of_ok hok, find_cons_of_none hnone, hlen]
    simp [shift]

/-! ## Leftmost embeddings -/

/-- **The search is greedy and loses nothing.** If it succeeds, it ends at the reach of the leftmost
embedding. -/
theorem exists_leftmost_of_find_eq_ok {cursor : Nat} (h : find same actual expected = .ok cursor) :
    ∃ places, Leftmost (Fits same actual expected) places ∧ reach places = cursor := by
  induction expected using List.reverseRecOn generalizing cursor with
  | nil =>
    refine ⟨[], ⟨fits_nil_iff.mpr rfl, fun others ho => ?_⟩, by simpa using h⟩
    rw [fits_nil_iff.mp ho]
    exact List.Forall₂.nil
  | append_singleton expected wanted ih =>
    obtain ⟨before, k, hbefore, hk, rfl⟩ := find_concat_eq_ok_iff.mp h
    obtain ⟨places, ⟨hf, hleft⟩, rfl⟩ := ih hbefore
    obtain ⟨hlt, hsame, hfirst⟩ := List.findIdx?_eq_some_iff_getElem.mp hk
    refine ⟨places ++ [reach places + k], ⟨?_, ?_⟩, reach_concat _ _⟩
    · refine fits_concat_iff.mpr ⟨places, _, _, rfl, hf, Nat.le_add_right _ k, ?_, hsame⟩
      rw [← List.getElem?_drop, List.getElem?_eq_getElem hlt]
    · intro others ho
      obtain ⟨init, place, x, rfl, hinit, hreach, hx, hsame'⟩ := fits_concat_iff.mp ho
      have hle := hleft init hinit
      refine forall₂_concat_right_iff.mpr ⟨places, _, rfl, hle, ?_⟩
      -- The other embedding is past `reach places` too when it comes to its last place, and there
      -- `k` is the first item that will do.
      have hpast := reach_mono hle
      by_contra hlt'
      refine hfirst (place - reach places) (by omega) ?_
      have hget : (actual.drop (reach places))[place - reach places]? = some x := by
        rw [List.getElem?_drop, Nat.add_sub_cancel' (by omega), hx]
      obtain ⟨_, hget⟩ := List.getElem?_eq_some_iff.mp hget
      rw [hget, hsame']

theorem isLeast_of_find_eq_ok {cursor : Nat} (h : find same actual expected = .ok cursor) :
    IsLeast (sufficient same actual expected) cursor := by
  obtain ⟨places, hleft, rfl⟩ := exists_leftmost_of_find_eq_ok h
  exact hleft.isLeast_reach

/-- No embedding goes on where a search has failed. -/
theorem not_embeds_of_find_eq_error {m : Missing} (h : find same actual expected = .error m) :
    ¬ Embeds same actual (expected.take (m.expectedIndex + 1)) := by
  obtain ⟨wanted, hget, hok, hnone⟩ := find_eq_error_iff.mp h
  obtain ⟨places, ⟨-, hleft⟩, hreach⟩ := exists_leftmost_of_find_eq_ok hok
  rintro ⟨others, ho⟩
  rw [List.take_add_one, hget, Option.toList_some] at ho
  obtain ⟨init, place, x, rfl, hinit, hpast, hx, hsame⟩ := fits_concat_iff.mp ho
  have hle := reach_mono (hleft init hinit)
  have hmem : x ∈ actual.drop m.passed := by
    refine List.mem_of_getElem? (i := place - m.passed) ?_
    rw [List.getElem?_drop, Nat.add_sub_cancel' (by omega), hx]
  rw [List.findIdx?_eq_none_iff.mp hnone x hmem] at hsame
  cases hsame

/-- A search succeeds exactly if there is an embedding. -/
theorem exists_find_eq_ok_iff :
    (∃ cursor, find same actual expected = .ok cursor) ↔ Embeds same actual expected := by
  constructor
  · rintro ⟨cursor, h⟩
    exact (isLeast_of_find_eq_ok h).1.2.of_take
  · intro h
    cases hf : find same actual expected with
    | ok cursor => exact ⟨cursor, rfl⟩
    | error m => exact absurd (h.take _) (not_embeds_of_find_eq_error hf)

theorem find_eq_ok_iff_isLeast {cursor : Nat} :
    find same actual expected = .ok cursor ↔
      IsLeast (sufficient same actual expected) cursor := by
  constructor
  · exact isLeast_of_find_eq_ok
  · intro h
    obtain ⟨cursor', hf⟩ := exists_find_eq_ok_iff.mpr h.1.2.of_take
    rw [hf, (isLeast_of_find_eq_ok hf).unique h]

/-- As many expected items are found before a search fails as can be embedded at all. -/
theorem isGreatest_of_find_eq_error {m : Missing} (h : find same actual expected = .error m) :
    m.expectedIndex < expected.length ∧
      IsGreatest (attainable same actual expected) m.expectedIndex := by
  obtain ⟨wanted, hget, hok, -⟩ := find_eq_error_iff.mp h
  obtain ⟨hlt, -⟩ := List.getElem?_eq_some_iff.mp hget
  refine ⟨hlt, ⟨Nat.le_of_lt hlt, exists_find_eq_ok_iff.mp ⟨_, hok⟩⟩, ?_⟩
  rintro n ⟨-, hn⟩
  by_contra hlt'
  refine not_embeds_of_find_eq_error h ?_
  have := hn.take (m.expectedIndex + 1)
  rwa [List.take_take, Nat.min_eq_left (by omega)] at this

theorem exists_shift_eq_ok_iff {found passed : Nat} {r : Except Missing Nat} :
    (∃ cursor, shift found passed r = .ok cursor) ↔ ∃ cursor, r = .ok cursor := by
  cases r <;> simp [shift]

/-- If each item will do for itself alone, a search succeeds exactly for the sublists. -/
theorem exists_find_eq_ok_iff_sublist [BEq α] [LawfulBEq α] :
    (∃ cursor, find (· == ·) actual expected = .ok cursor) ↔ expected.Sublist actual := by
  induction expected generalizing actual with
  | nil => simp
  | cons wanted expected ih =>
    rw [List.cons_sublist_iff]
    cases hk : actual.findIdx? (· == wanted) with
    | none =>
      have hnot : wanted ∉ actual := fun hmem => by
        simpa using List.findIdx?_eq_none_iff.mp hk wanted hmem
      rw [find_cons_of_none hk]
      constructor
      · rintro ⟨cursor, hcursor⟩
        cases hcursor
      · rintro ⟨first, rest, rfl, hmem, -⟩
        exact absurd (List.mem_append_left rest hmem) hnot
    | some k =>
      rw [find_cons_of_some hk, exists_shift_eq_ok_iff, ih]
      obtain ⟨hlt, hwanted, hfirst⟩ := List.findIdx?_eq_some_iff_getElem.mp hk
      constructor
      · intro h
        refine ⟨actual.take (k + 1), actual.drop (k + 1), (List.take_append_drop _ _).symm, ?_, h⟩
        rw [← beq_iff_eq.mp hwanted]
        exact List.mem_take_iff_getElem.mpr ⟨k, by omega, rfl⟩
      · rintro ⟨first, rest, rfl, hmem, h⟩
        -- The item stands in `first`, so the first place where it stands is there.
        have hle : k + 1 ≤ first.length := by
          by_contra hpast
          obtain ⟨i, hi, hget⟩ := List.mem_iff_getElem.mp hmem
          refine hfirst i (by omega) ?_
          rw [List.getElem_append_left hi, hget]
          exact beq_self_eq_true wanted
        rw [List.drop_append_of_le_length hle]
        exact h.trans (List.sublist_append_right _ _)

/-! ## The cursor -/

/-- A cursor that is in bounds stays there, and the search goes on as one in the items left. -/
theorem scan_eq_shift_find {index cursor : Nat} (h : cursor ≤ actual.length) :
    scan same actual index cursor expected =
      some (shift index cursor (find same (actual.drop cursor) expected)) := by
  induction expected generalizing index cursor with
  | nil => simp [scan, shift]
  | cons wanted expected ih =>
    rw [scan, if_pos h]
    cases hk : (actual.drop cursor).findIdx? (same · wanted) with
    | none => simp [find_cons_of_none hk, shift]
    | some k =>
      obtain ⟨hlt, -⟩ := List.findIdx?_eq_some_iff_getElem.mp hk
      rw [List.length_drop] at hlt
      dsimp only
      rw [ih (by omega), find_cons_of_some hk, shift_shift, List.drop_drop, Nat.add_comm 1 index,
        Nat.add_comm (k + 1) cursor, Nat.add_assoc]

theorem scan_eq_find : scan same actual 0 0 expected = some (find same actual expected) := by
  rw [scan_eq_shift_find (Nat.zero_le actual.length), List.drop_zero, shift_zero]

/-! ## The outcome of a search -/

/-- **Correctness of the search.** It succeeds exactly if the expected items embed in the actual
ones, and then stops as early as an embedding can. It fails exactly at the end of the longest
beginning that embeds, as early as that can end, and no item from there on will do for the one it
misses. On the way its cursor never leaves the actual items. -/
theorem find_correct (same : α → α → Bool) (actual expected : List α) :
    ((∃ cursor, find same actual expected = .ok cursor) ↔ Embeds same actual expected) ∧
    (∀ cursor, find same actual expected = .ok cursor ↔
      IsLeast (sufficient same actual expected) cursor) ∧
    (∀ index passed, find same actual expected = .error ⟨index, passed⟩ ↔
      IsGreatest (attainable same actual expected) index ∧ index < expected.length ∧
      IsLeast (sufficient same actual (expected.take index)) passed ∧
      ∀ wanted, expected[index]? = some wanted → ∀ x ∈ actual.drop passed,
        same x wanted = false) ∧
    scan same actual 0 0 expected = some (find same actual expected) := by
  refine ⟨exists_find_eq_ok_iff, fun _ => find_eq_ok_iff_isLeast, fun index passed => ⟨?_, ?_⟩,
    scan_eq_find⟩
  · intro h
    obtain ⟨hlt, hgreatest⟩ := isGreatest_of_find_eq_error h
    obtain ⟨wanted, hget, hok, hnone⟩ := find_eq_error_iff.mp h
    refine ⟨hgreatest, hlt, isLeast_of_find_eq_ok hok, fun wanted' hget' => ?_⟩
    rw [hget, Option.some.injEq] at hget'
    subst hget'
    exact List.findIdx?_eq_none_iff.mp hnone
  · rintro ⟨-, hlt, hleast, hnone⟩
    have hget := List.getElem?_eq_getElem hlt
    exact find_eq_error_iff.mpr ⟨expected[index], hget, find_eq_ok_iff_isLeast.mpr hleast,
      List.findIdx?_eq_none_iff.mpr (hnone _ hget)⟩

end HighlightCheck.Subsequence
