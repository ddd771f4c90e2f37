import HighlightCheck.Proofs.Search

/-!
# Searches composed

A search can be cut in two on either side. When the expected items are cut, the second search begins
where the first one ended. When the actual items are cut, the first part may hold some of the expected
items only; the second search then looks for the others, from the missing one on.

* `resume`: what a search comes to that goes on in more actual items.
* `find_append_actual`: a search of two parts, the second of which may not be needed.
* `find_composes`: both laws, with every cursor and every place of a failure.
-/

namespace HighlightCheck.Subsequence

/-- The outcome of a search that missed an item, as `m` says, in the first `length` actual items, and
that for the items from there on in the actual ones behind them. If that one found nothing, it has
not gone past the place where the first one stopped. -/
def resume (m : Missing) (length : Nat) : Except Missing Nat → Except Missing Nat
  | .ok cursor => .ok (length + cursor)
  | .error later =>
    .error ⟨m.expectedIndex + later.expectedIndex,
      if later.expectedIndex = 0 then m.passed else length + later.passed⟩

variable {α : Type} {same : α → α → Bool} {actual expected : List α}

/-- Items in front of a search that is resumed move all of it. -/
theorem shift_resume (found passed length : Nat) (m : Missing) (r : Except Missing Nat) :
    shift found passed (resume m length r) =
      resume ⟨m.expectedIndex + found, m.passed + passed⟩ (length + passed) r := by
  cases r with
  | ok cursor =>
    simp only [resume, shift, Except.ok.injEq]
    omega
  | error later =>
    simp only [resume, shift, Except.error.injEq, Missing.mk.injEq]
    split <;> omega

/-- A search that finds something first moves the place where the rest of it starts. -/
theorem resume_shift_one (m : Missing) (length k : Nat) (r : Except Missing Nat) :
    resume m length (shift 1 (k + 1) r) = shift (m.expectedIndex + 1) (length + k + 1) r := by
  cases r with
  | ok cursor =>
    simp only [resume, shift, Except.ok.injEq]
    omega
  | error later =>
    simp only [resume, shift, Nat.add_one_ne_zero, if_false, Except.error.injEq, Missing.mk.injEq]
    omega

/-- **The seam.** A search that succeeds is not changed by more actual items. One that fails goes on
in them, from the item that it misses on. -/
theorem find_append_actual (same : α → α → Bool) (first rest expected : List α) :
    find same (first ++ rest) expected =
      match find same first expected with
      | .ok cursor => .ok cursor
      | .error m => resume m first.length (find same rest (expected.drop m.expectedIndex)) := by
  induction expected generalizing first with
  | nil => rfl
  | cons wanted expected ih =>
    cases hfirst : first.findIdx? (same · wanted) with
    | some k =>
      -- The first item is found on this side of the seam, and the search goes on behind it.
      obtain ⟨hlt, -⟩ := List.findIdx?_eq_some_iff_getElem.mp hfirst
      have hboth : (first ++ rest).findIdx? (same · wanted) = some k := by
        rw [List.findIdx?_append, hfirst]
        rfl
      rw [find_cons_of_some hboth, find_cons_of_some hfirst,
        List.drop_append_of_le_length hlt, ih]
      cases find same (first.drop (k + 1)) expected with
      | ok cursor => rfl
      | error m =>
        have hlength : (first.drop (k + 1)).length + (k + 1) = first.length := by
          rw [List.length_drop]
          omega
        dsimp only
        rw [shift_resume, hlength]
        rfl
    | none =>
      rw [find_cons_of_none hfirst]
      dsimp only
      rw [List.drop_zero]
      cases hrest : rest.findIdx? (same · wanted) with
      | none =>
        have hboth : (first ++ rest).findIdx? (same · wanted) = none := by
          rw [List.findIdx?_append, hfirst, hrest]
          rfl
        rw [find_cons_of_none hboth, find_cons_of_none hrest]
        rfl
      | some k =>
        have hboth : (first ++ rest).findIdx? (same · wanted) = some (k + first.length) := by
          rw [List.findIdx?_append, hfirst, hrest]
          rfl
        have hdrop : (first ++ rest).drop (k + first.length + 1) = rest.drop (k + 1) := by
          rw [List.drop_append, List.drop_of_length_le (by omega), List.nil_append]
          congr 1
          omega
        rw [find_cons_of_some hboth, find_cons_of_some hrest, resume_shift_one, hdrop,
          Nat.zero_add, Nat.add_comm k]

/-- The cursor of a search stays in the actual items. -/
theorem le_length_of_find_eq_ok {cursor : Nat} (h : find same actual expected = .ok cursor) :
    cursor ≤ actual.length :=
  (isLeast_of_find_eq_ok h).1.1

/-- **Searches compose on both sides.** A search for more expected items is one for the first of them
and then, from its cursor on, one for the others. A search in more actual items is one in the first
of them and then, if that fails, one in the others for what is missing. The cursor and the missing
item lie within the lists, so what is left of these to search is there. -/
theorem find_composes {α : Type} (same : α → α → Bool) :
    (∀ actual first rest, find same actual (first ++ rest) =
      match find same actual first with
      | .error m => .error m
      | .ok cursor => shift first.length cursor (find same (actual.drop cursor) rest)) ∧
    (∀ first rest expected, find same (first ++ rest) expected =
      match find same first expected with
      | .ok cursor => .ok cursor
      | .error m => resume m first.length (find same rest (expected.drop m.expectedIndex))) ∧
    (∀ actual expected cursor, find same actual expected = .ok cursor → cursor ≤ actual.length) ∧
    (∀ actual expected m, find same actual expected = .error m →
      m.expectedIndex < expected.length) :=
  ⟨find_append same, find_append_actual same, fun _ _ _ => le_length_of_find_eq_ok,
    fun _ _ _ h => (isGreatest_of_find_eq_error h).1⟩

/-- Like equality, but that 0 is not the same as itself. -/
def sameNonzero (x wanted : Nat) : Bool :=
  x == wanted && x != 0

/-- A search fails behind its second item. In more actual items it either finds the third one, and
then fails there, or it does not get on. -/
theorem find_composes_of_seam :
    find sameNonzero [1, 0, 2, 7] [1, 2] = .ok 3 ∧
    find sameNonzero [1, 0, 2, 7] ([1, 2] ++ [3, 0]) = .error ⟨2, 3⟩ ∧
    find sameNonzero ([1, 0, 2, 7] ++ [3, 0]) [1, 2, 3, 0] = .error ⟨3, 5⟩ ∧
    find sameNonzero ([1, 0, 2, 7] ++ [0]) [1, 2, 3, 0] = .error ⟨2, 3⟩ ∧
    3 ≤ [1, 0, 2, 7].length ∧ 2 < [1, 2, 3, 0].length := by
  obtain ⟨hexpected, hactual, hcursor, hindex⟩ := find_composes sameNonzero
  have hfound : find sameNonzero [1, 0, 2, 7] [1, 2] = .ok 3 := by rfl
  have hmissing : find sameNonzero [1, 0, 2, 7] [1, 2, 3, 0] = .error ⟨2, 3⟩ := by
    have hcut := hexpected [1, 0, 2, 7] [1, 2] [3, 0]
    rw [hfound] at hcut
    exact hcut
  refine ⟨hfound, hmissing, ?_, ?_, hcursor _ _ 3 hfound, hindex _ _ ⟨2, 3⟩ hmissing⟩
  · rw [hactual, hmissing]
    rfl
  · rw [hactual, hmissing]
    rfl

end HighlightCheck.Subsequence
