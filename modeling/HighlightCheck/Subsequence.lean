/-!
# Ordered subsequences

`Subsequence.find` looks for the expected items in the actual ones, in order, with any others
between them. Each expected item takes the first actual one after the last taken that it is the
same as; an actual item is taken once at most.

* `find_nil`, `find_cons_of_none`, `find_cons_of_some`: the search, one expected item at a time.
-/

namespace HighlightCheck

/-- Where a search for expected items stopped. -/
structure Missing where
  /-- Which expected item was not found. -/
  expectedIndex : Nat
  /-- How many actual items had been passed when the search for it began. -/
  passed : Nat
  deriving DecidableEq, Repr

namespace Subsequence

/-- The outcome of a search that began after `found` expected and `passed` actual items. -/
def shift (found passed : Nat) : Except Missing Nat → Except Missing Nat
  | .ok cursor => .ok (cursor + passed)
  | .error m => .error ⟨m.expectedIndex + found, m.passed + passed⟩

/-- Looks for the items of `expected` in `actual`, in order. `same x w` says that the actual item
`x` will do for the expected item `w`. Gives the number of actual items up to the last one taken,
or says which expected item is missing. -/
def find {α : Type} (same : α → α → Bool) (actual : List α) : List α → Except Missing Nat
  | [] => .ok 0
  | wanted :: expected =>
    match actual.findIdx? (same · wanted) with
    | none => .error ⟨0, 0⟩
    | some k => shift 1 (k + 1) (find same (actual.drop (k + 1)) expected)

variable {α : Type} {same : α → α → Bool} {actual expected : List α} {wanted : α}

@[simp] theorem find_nil : find same actual [] = .ok 0 := rfl

theorem find_cons_of_none (h : actual.findIdx? (same · wanted) = none) :
    find same actual (wanted :: expected) = .error ⟨0, 0⟩ := by
  simp [find, h]

theorem find_cons_of_some {k : Nat} (h : actual.findIdx? (same · wanted) = some k) :
    find same actual (wanted :: expected) =
      shift 1 (k + 1) (find same (actual.drop (k + 1)) expected) := by
  simp [find, h]

end Subsequence

end HighlightCheck
