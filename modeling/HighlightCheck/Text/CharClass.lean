/-!
# Classes of characters given by code point ranges

A character class is a list of ranges of code points, as the tables of the character standard give
them. `CharClass.mem_iff` says when a character is in one.
-/

namespace HighlightCheck

/-- The code points from `first` to `last`, both included. -/
structure CharRange where
  first : Nat
  last : Nat
  deriving Repr, DecidableEq

namespace CharRange

/-- Whether the code point of `c` lies in the range. -/
def has (r : CharRange) (c : Char) : Bool :=
  r.first ≤ c.toNat && c.toNat ≤ r.last

theorem has_iff {r : CharRange} {c : Char} :
    r.has c = true ↔ r.first ≤ c.toNat ∧ c.toNat ≤ r.last := by
  simp [has]

end CharRange

/-- A class of characters: those in one of the ranges. -/
abbrev CharClass := List CharRange

namespace CharClass

/-- Whether `c` is in the class. -/
def has (k : CharClass) (c : Char) : Bool :=
  k.any (·.has c)

theorem mem_iff {k : CharClass} {c : Char} :
    k.has c = true ↔ ∃ r ∈ k, r.first ≤ c.toNat ∧ c.toNat ≤ r.last := by
  simp [has, CharRange.has_iff]

end CharClass

end HighlightCheck
