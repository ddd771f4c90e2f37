import HighlightCheck.Session.Run
import Mathlib.Data.List.Nodup

/-!
# Slots of a session

A slot goes by its name, so no two slots have one name (`Distinct`). Nothing that is done to the slots
loses a guard: one that leaves its slot is the one that was asked for.

* `exists_split`: the slots around the one with a name.
* `Distinct.held_perm_remove`, `Distinct.held_put_perm`: what is held before and after.
-/

namespace HighlightCheck.Session.Slots

open List (Perm)
open scoped List

variable {slots before after : Slots} {name : String} {g old : Guard}

/-- No two slots have one name. -/
def Distinct (slots : Slots) : Prop :=
  (slots.map (·.1)).Nodup

theorem Distinct.nil : Distinct [] := List.nodup_nil

theorem ne_of_not_mem (h : name ∉ slots.map (·.1)) {slot : String × Guard} (hslot : slot ∈ slots) :
    slot.1 ≠ name :=
  ne_of_mem_of_not_mem (List.mem_map_of_mem hslot) h

theorem Distinct.split (h : Distinct (before ++ (name, old) :: after)) :
    name ∉ (before ++ after).map (·.1) ∧ Distinct (before ++ after) := by
  unfold Distinct at h ⊢
  rw [List.map_append, List.map_cons, List.nodup_middle, List.nodup_cons] at h
  rwa [List.map_append]

theorem exists_split (h : slots.guard? name = some old) :
    ∃ before after, slots = before ++ (name, old) :: after := by
  obtain ⟨before, after, hslots, -⟩ := List.lookup_eq_some_iff.mp h
  exact ⟨before, after, hslots⟩

theorem not_mem_of_guard?_eq_none (h : slots.guard? name = none) : name ∉ slots.map (·.1) := by
  intro hname
  obtain ⟨slot, hslot, rfl⟩ := List.mem_map.mp hname
  exact bne_iff_ne.mp (List.lookup_eq_none_iff.mp h slot hslot) rfl

/-! ## What is done to a slot -/

theorem remove_of_not_mem (h : name ∉ slots.map (·.1)) : slots.remove name = slots :=
  List.filter_eq_self.mpr fun _ hslot => bne_iff_ne.mpr (ne_of_not_mem h hslot)

theorem remove_split (h : Distinct (before ++ (name, old) :: after)) :
    remove (before ++ (name, old) :: after) name = before ++ after := by
  rw [← remove_of_not_mem h.split.1]
  simp [remove]

theorem put_of_not_mem (h : name ∉ slots.map (·.1)) (g : Guard) :
    slots.put name g = slots ++ [(name, g)] := by
  refine if_neg fun hany => ?_
  obtain ⟨slot, hslot, hname⟩ := List.any_eq_true.mp hany
  exact ne_of_not_mem h hslot (beq_iff_eq.mp hname)

/-- The other slots do not change. -/
theorem put_split (h : Distinct (before ++ (name, old) :: after)) (g : Guard) :
    put (before ++ (name, old) :: after) name g = before ++ (name, g) :: after := by
  have hsame (part : Slots) (hpart : part ⊆ before ++ after) :
      (part.map fun slot => if slot.1 == name then (name, g) else slot) = part :=
    (List.map_congr_left fun slot hslot =>
      if_neg (by simpa using ne_of_not_mem h.split.1 (hpart hslot))).trans part.map_id
  unfold put
  rw [if_pos (by simp), List.map_append, List.map_cons, hsame before (by simp),
    hsame after (by simp)]
  simp

/-! ## What is kept -/

theorem Distinct.remove (h : Distinct slots) (name : String) : Distinct (slots.remove name) :=
  List.Nodup.sublist (List.filter_sublist.map _) h

theorem Distinct.put (h : Distinct slots) (name : String) (g : Guard) :
    Distinct (slots.put name g) := by
  cases hg : slots.guard? name with
  | none =>
    have hnew := not_mem_of_guard?_eq_none hg
    rw [put_of_not_mem hnew]
    show ((slots ++ [(name, g)]).map (·.1)).Nodup
    rw [List.map_append, List.nodup_append_comm]
    exact List.nodup_cons.mpr ⟨hnew, h⟩
  | some old =>
    obtain ⟨before, after, rfl⟩ := exists_split hg
    rw [put_split h]
    simpa [Distinct] using h

theorem held_split_perm (before after : Slots) (name : String) (g : Guard) :
    (held (before ++ (name, g) :: after)).Perm (held (before ++ after) ++ [g]) := by
  unfold held
  refine (List.reverse_perm _).trans ?_
  rw [List.map_append, List.map_cons, List.map_append]
  refine List.perm_middle.trans ?_
  exact (List.perm_append_singleton g _).symm.trans ((List.reverse_perm _).symm.append_right [g])

/-- What is held is what the other slots hold, and the guard in the slot, if there is one. -/
theorem Distinct.held_perm_remove (h : Distinct slots) (name : String) :
    slots.held.Perm ((slots.remove name).held ++ (slots.guard? name).toList) := by
  cases hg : slots.guard? name with
  | none =>
    rw [remove_of_not_mem (not_mem_of_guard?_eq_none hg), Option.toList_none, List.append_nil]
  | some old =>
    obtain ⟨before, after, rfl⟩ := exists_split hg
    rw [remove_split h]
    exact held_split_perm before after name old

/-- With a guard put into a slot, what is held besides the one that was there is what was held before,
and that guard. -/
theorem Distinct.held_put_perm (h : Distinct slots) (name : String) (g : Guard) :
    ((slots.put name g).held ++ (slots.guard? name).toList).Perm (slots.held ++ [g]) := by
  cases hg : slots.guard? name with
  | none =>
    rw [put_of_not_mem (not_mem_of_guard?_eq_none hg), Option.toList_none, List.append_nil]
    simpa using held_split_perm slots [] name g
  | some old =>
    obtain ⟨before, after, rfl⟩ := exists_split hg
    rw [put_split h]
    calc held (before ++ (name, g) :: after) ++ [old]
      _ ~ held (before ++ after) ++ [g] ++ [old] :=
        (held_split_perm before after name g).append_right [old]
      _ ~ held (before ++ after) ++ [old] ++ [g] := by
        simp only [List.append_assoc]
        exact (Perm.swap old g []).append_left _
      _ ~ held (before ++ (name, old) :: after) ++ [g] :=
        ((held_split_perm before after name old).append_right [g]).symm

end HighlightCheck.Session.Slots
