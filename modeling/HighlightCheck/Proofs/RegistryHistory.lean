import HighlightCheck.Proofs.Runs
import HighlightCheck.Registry
import HighlightCheck.Tokenizer.Fixed
import Mathlib.Data.List.Induction

/-!
# Registries by the history of their registrations

A registry keeps for each key the index of a tokenizer. What it finds can be told without indices:
the last tokenizer that was registered, among those that have the name as one of their own.

* `Registry.byKey_register`: what one registration does to the indices.
* `Registry.find?_register`: what it does to what is found.
* `Registry.find?_registered`: what is found after any registrations, by a search from the last one
  back.
* `Registry.registered_correct`: the same in words of names.
-/

namespace HighlightCheck

namespace Tokenizer

/-- `key` is the key of the tokenizer's name or of one of its aliases. -/
def HasKey (t : Tokenizer) (key : String) : Prop :=
  ∃ name ∈ t.name :: t.aliases, Text.foldKey name = key

theorem mem_keys_iff {t : Tokenizer} {key : String} : key ∈ t.keys ↔ key ≠ "" ∧ t.HasKey key := by
  rw [keys, List.mem_filter, List.mem_map, and_comm, bne_iff_ne]
  rfl

end Tokenizer

namespace Registry

variable {r : Registry} {t : Tokenizer} {key name : String}

/-! ## One registration -/

theorem getElem?_foldl_insert (keys : List String) (i : Nat) (byKey : Std.TreeMap String Nat)
    (key : String) :
    (keys.foldl (fun byKey key => byKey.insert key i) byKey)[key]? =
      if key ∈ keys then some i else byKey[key]? := by
  induction keys generalizing byKey with
  | nil => simp
  | cons k keys ih =>
    rw [List.foldl_cons, ih, Std.TreeMap.getElem?_insert]
    by_cases hkeys : key ∈ keys
    · simp [hkeys]
    · by_cases hk : key = k
      · simp [hk]
      · simp [hkeys, hk, Ne.symm hk]

/-- A registration takes all its keys over, and leaves the others. -/
theorem byKey_register (r : Registry) (t : Tokenizer) (key : String) :
    (r.register t).byKey[key]? = if key ∈ t.keys then some r.size else r.byKey[key]? :=
  getElem?_foldl_insert _ _ _ _

/-- Every index is one of a tokenizer. -/
def InRange (r : Registry) : Prop :=
  ∀ (key : String) (i : Nat), r.byKey[key]? = some i → i < r.size

theorem inRange_empty : empty.InRange := by
  intro key i h
  simp [empty] at h

theorem InRange.register (h : r.InRange) (t : Tokenizer) : (r.register t).InRange := by
  intro key i hi
  rw [byKey_register] at hi
  rw [size_register]
  split at hi
  · obtain rfl := Option.some.inj hi
    exact Nat.lt_succ_self _
  · exact Nat.lt_succ_of_lt (h key i hi)

/-- A registration is found by its keys, and by any other name what was found before. -/
theorem find?_register (h : r.InRange) (t : Tokenizer) (name : String) :
    (r.register t).find? name =
      if Text.foldKey name ∈ t.keys then some t else r.find? name := by
  rw [find?, byKey_register]
  split
  · simp [Registry.register, size]
  · rw [find?]
    cases hi : r.byKey[Text.foldKey name]? with
    | none => rfl
    | some i =>
      exact List.getElem?_append_left (h _ i hi)

/-! ## All registrations -/

/-- The registry after registrations, one after the other. -/
def registered (ts : List Tokenizer) : Registry :=
  ts.foldl register empty

theorem registered_concat (ts : List Tokenizer) (t : Tokenizer) :
    registered (ts ++ [t]) = (registered ts).register t := by
  rw [registered, List.foldl_append]
  rfl

theorem inRange_registered (ts : List Tokenizer) : (registered ts).InRange := by
  induction ts using List.reverseRecOn with
  | nil => exact inRange_empty
  | append_singleton ts t ih =>
    rw [registered_concat]
    exact ih.register t

theorem tokenizers_registered (ts : List Tokenizer) : (registered ts).tokenizers = ts := by
  induction ts using List.reverseRecOn with
  | nil => rfl
  | append_singleton ts t ih => rw [registered_concat, register, ih]

/-- What is found is what a search from the last registration back finds. -/
theorem find?_registered (ts : List Tokenizer) (name : String) :
    (registered ts).find? name = ts.reverse.find? fun t => Text.foldKey name ∈ t.keys := by
  induction ts using List.reverseRecOn with
  | nil => simp [registered, find?, empty]
  | append_singleton ts t ih =>
    rw [registered_concat, find?_register (inRange_registered ts), ih, List.reverse_concat,
      List.find?_cons]
    by_cases hmem : Text.foldKey name ∈ t.keys <;> simp [hmem]

theorem find?_registered_eq_some_iff {ts : List Tokenizer} :
    (registered ts).find? name = some t ↔
      Text.foldKey name ≠ "" ∧ ∃ before after, ts = before ++ t :: after ∧
        t.HasKey (Text.foldKey name) ∧ ∀ u ∈ after, ¬ u.HasKey (Text.foldKey name) := by
  rw [find?_registered, List.find?_eq_some_iff_append]
  constructor
  · rintro ⟨hkeys, later, earlier, hts, hlater⟩
    obtain ⟨hne, hkey⟩ := Tokenizer.mem_keys_iff.mp (of_decide_eq_true hkeys)
    refine ⟨hne, earlier.reverse, later.reverse, ?_, hkey, fun u hu hukey => ?_⟩
    · rw [← List.reverse_reverse ts, hts]
      simp
    · have := hlater u (List.mem_reverse.mp hu)
      simp [Tokenizer.mem_keys_iff, hne, hukey] at this
  · rintro ⟨hne, before, after, rfl, hkey, hafter⟩
    refine ⟨decide_eq_true (Tokenizer.mem_keys_iff.mpr ⟨hne, hkey⟩), after.reverse, before.reverse,
      by simp, fun u hu => ?_⟩
    simp [Tokenizer.mem_keys_iff, hafter u (List.mem_reverse.mp hu)]

theorem find?_registered_eq_none_iff {ts : List Tokenizer} :
    (registered ts).find? name = none ↔
      Text.foldKey name = "" ∨ ∀ t ∈ ts, ¬ t.HasKey (Text.foldKey name) := by
  rw [find?_registered, List.find?_eq_none]
  simp only [List.mem_reverse, Tokenizer.mem_keys_iff, decide_eq_true_eq, not_and]
  by_cases hempty : Text.foldKey name = "" <;> simp [hempty]

/-- **What a registry finds.** After any registrations a name finds the tokenizer that was
registered last among those that have its key, and nothing if there is none or the name is blank.
Every index is one of a tokenizer; one more registration changes nothing for a name whose key it
does not have; names with one key find the same; and every registration counts, also if none of its
names finds it. -/
theorem registered_correct (ts : List Tokenizer) :
    (∀ name key, Text.foldKey name = key ↔
      ∃ core, Text.Trimmed name.toList core ∧ key = String.ofList (core.map Char.toLower)) ∧
    (∀ name t, (registered ts).find? name = some t ↔
      Text.foldKey name ≠ "" ∧ ∃ before after, ts = before ++ t :: after ∧
        t.HasKey (Text.foldKey name) ∧ ∀ u ∈ after, ¬ u.HasKey (Text.foldKey name)) ∧
    (∀ name, (registered ts).find? name = none ↔
      Text.foldKey name = "" ∨ ∀ t ∈ ts, ¬ t.HasKey (Text.foldKey name)) ∧
    (∀ (key : String) (i : Nat), (registered ts).byKey[key]? = some i → i < ts.length) ∧
    (∀ t name, (registered (ts ++ [t])).find? name ≠ (registered ts).find? name →
      Text.foldKey name ≠ "" ∧ t.HasKey (Text.foldKey name)) ∧
    (∀ name name', Text.foldKey name = Text.foldKey name' →
      (registered ts).find? name = (registered ts).find? name') ∧
    (registered ts).size = ts.length ∧
    ((registered ts).isEmpty = true ↔ ts = []) := by
  have hsize : (registered ts).size = ts.length := congrArg List.length (tokenizers_registered ts)
  refine ⟨fun _ _ => Text.foldKey_eq_iff, fun _ _ => find?_registered_eq_some_iff,
    fun _ => find?_registered_eq_none_iff, fun key i hi => ?_, fun t name hne => ?_,
    fun name name' hkey => ?_, hsize, ?_⟩
  · exact hsize ▸ inRange_registered ts key i hi
  · rw [registered_concat, find?_register (inRange_registered ts)] at hne
    split at hne
    · rename_i hmem
      exact Tokenizer.mem_keys_iff.mp hmem
    · exact absurd rfl hne
  · rw [find?, hkey, find?]
  · rw [isEmpty, tokenizers_registered, List.isEmpty_iff]

/-- A later registration takes a name over, however it is written, and leaves the names it does not
have. A blank name finds nothing, though one is registered. -/
example :
    let r := registered [.fixed "Words" ["w"] [], .fixed " words" [" "] []]
    ["WORDS ", "W", " "].map (fun name => (r.find? name).map (·.name)) =
      [some " words", some "Words", none] := by
  decide +kernel

end Registry

end HighlightCheck
