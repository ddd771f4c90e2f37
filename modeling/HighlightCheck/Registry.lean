import HighlightCheck.Text.Blank
import HighlightCheck.Tokenizer
import Std.Data.TreeMap

/-!
# Registries of tokenizers

Tokenizers by name and alias. Names are compared without the blanks around them and without regard
to the case of `A` to `Z` (`Text.foldKey`); a blank name finds nothing. A name that was given more
than once finds the tokenizer that was registered last.

* `size_register`: every registration counts, whatever its names are.
-/

namespace HighlightCheck

/-- Tokenizers in the order of their registration, and which one each key finds. -/
structure Registry where
  tokenizers : List Tokenizer
  byKey : Std.TreeMap String Nat

namespace Tokenizer

/-- The keys under which a tokenizer is found: its name and its aliases, those that are not
blank. -/
def keys (t : Tokenizer) : List String :=
  ((t.name :: t.aliases).map Text.foldKey).filter (· != "")

end Tokenizer

namespace Registry

def empty : Registry :=
  ⟨[], ∅⟩

/-- The number of registrations. -/
def size (r : Registry) : Nat :=
  r.tokenizers.length

def isEmpty (r : Registry) : Bool :=
  r.tokenizers.isEmpty

/-- Registers a tokenizer. -/
def register (r : Registry) (t : Tokenizer) : Registry where
  tokenizers := r.tokenizers ++ [t]
  byKey := t.keys.foldl (fun byKey key => byKey.insert key r.size) r.byKey

/-- The tokenizer that `name` finds. -/
def find? (r : Registry) (name : String) : Option Tokenizer :=
  r.byKey[Text.foldKey name]?.bind (r.tokenizers[·]?)

@[simp] theorem size_empty : empty.size = 0 := rfl

@[simp] theorem size_register (r : Registry) (t : Tokenizer) :
    (r.register t).size = r.size + 1 := by
  simp [size, register]

end Registry

end HighlightCheck
