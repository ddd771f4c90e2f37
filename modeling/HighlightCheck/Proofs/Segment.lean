import HighlightCheck.Proofs.Activity
import Mathlib.Data.List.Sort

/-!
# Segments that clean up after themselves

A segment of the operations of a thread is closed if the guards that it drops are those that it
makes. Whatever the order of its drops, some of which may do nothing, the guard stack after it is the
one before it.

Nothing is asked of guards that are given away, or of listeners that fail: what nobody holds cannot
be dropped, so a closed segment leaves no guard of its own to nobody.

* `not_active_of_dropped`: a guard that has been dropped is active no more.
* `active_append_iff`: a segment that drops none of the guards made before it leaves them as they
  are.
* `restored_of_closed`: a closed segment restores the guard stack.
-/

namespace HighlightCheck

/-- Guards in the order of their numbers are told by their members. -/
theorem GuardStack.eq_of_mem_iff {l l' : List Guard} (h : l.Pairwise (·.id < ·.id))
    (h' : l'.Pairwise (·.id < ·.id)) (hmem : ∀ g, g ∈ l ↔ g ∈ l') : l = l' := by
  have : Std.Antisymm fun a b : Guard => a.id < b.id :=
    ⟨fun a b hab hba => absurd hab (Nat.lt_asymm hba)⟩
  have : Std.Irrefl fun a b : Guard => a.id < b.id := ⟨fun a => Nat.lt_irrefl a.id⟩
  exact h.eq_of_mem_iff h' hmem

namespace Thread

variable {files : FileTree} {log : LogSlot} {ops before segment : List Op} {n d i : Nat}

/-! ## Guards that were made -/

theorem loads_append (before segment : List Op) :
    loads (before ++ segment) = loads before ++ loads segment :=
  List.filterMap_append

theorem length_loads_mono (h : before <+: ops) : (loads before).length ≤ (loads ops).length :=
  (h.sublist.filterMap Op.cache?).length_le

/-- Guards that are made later have greater numbers. -/
theorem MadeAt.length_loads_le (h : MadeAt (before ++ segment) n i) (hi : before.length ≤ i) :
    (loads before).length ≤ n := by
  obtain ⟨-, rfl⟩ := h
  refine length_loads_mono ?_
  rw [List.take_append, List.take_of_length_le hi]
  exact List.prefix_append _ _

theorem exists_madeAt (h : n < (loads ops).length) : ∃ i, MadeAt ops n i := by
  induction ops using List.reverseRecOn with
  | nil => cases h
  | append_singleton ops op ih =>
    by_cases hn : n < (loads ops).length
    · obtain ⟨i, hi⟩ := ih hn
      exact ⟨i, madeAt_concat_iff.mpr (.inl hi)⟩
    · cases op with
      | load cache =>
        rw [loads_concat, List.length_append] at h
        simp only [Op.cache?, Option.toList_some, List.length_singleton] at h
        exact ⟨_, madeAt_concat_iff.mpr (.inr ⟨rfl, ⟨cache, rfl⟩, by omega⟩)⟩
      | _ => exact absurd (by simpa [Op.cache?] using h) hn

/-- A guard that is made in a segment has a number that was not given out before it. -/
theorem exists_madeAt_segment (hle : (loads before).length ≤ n)
    (hlt : n < (loads (before ++ segment)).length) :
    ∃ i, before.length ≤ i ∧ MadeAt (before ++ segment) n i := by
  obtain ⟨i, hi⟩ := exists_madeAt hlt
  refine ⟨i, Nat.le_of_not_lt fun hshort => ?_, hi⟩
  -- Were it made before the segment, its number would be one of those given out before.
  have hbefore : MadeAt before n i := by
    obtain ⟨hload, hn⟩ := hi
    rw [List.getElem?_append_left hshort] at hload
    rw [List.take_append_of_le_length (Nat.le_of_lt hshort)] at hn
    exact ⟨hload, hn⟩
  have := hbefore.lt_loads
  omega

/-! ## Guards that were dropped -/

theorem lt_loads_of_dropped (h : (fresh files log).Legal ops) (hd : .drop d ∈ ops) :
    d < (loads ops).length := by
  induction ops using List.reverseRecOn with
  | nil => cases hd
  | append_singleton ops op ih =>
    obtain ⟨hops, hop⟩ := legal_concat_iff.mp h
    refine Nat.lt_of_lt_of_le ?_ (length_loads_mono (List.prefix_append ops [op]))
    rcases List.mem_append.mp hd with hd | hd
    · exact ih hops hd
    · rw [← List.mem_singleton.mp hd] at hop
      obtain ⟨g, hg, rfl⟩ := List.mem_map.mp hop
      exact (numbered_run hops).id_lt hg

/-- Once dropped, a guard is active no more, since no other guard gets its number. -/
theorem not_active_of_dropped (h : (fresh files log).Legal ops) (hd : .drop d ∈ ops) :
    ¬ Active ops d := by
  induction ops using List.reverseRecOn with
  | nil => cases hd
  | append_singleton ops op ih =>
    obtain ⟨hops, hop⟩ := legal_concat_iff.mp h
    rcases List.mem_append.mp hd with hd | hd
    · intro hact
      rcases active_concat_iff.mp hact with ⟨hact, -⟩ | ⟨-, heq⟩
      · exact ih hops hd hact
      · have := lt_loads_of_dropped hops hd
        omega
    · rw [← List.mem_singleton.mp hd, active_drop_iff]
      exact fun ⟨hact, hnot⟩ => hnot (Nat.le_refl d) hact

/-- If no guard made before the segment is dropped in it, those guards stay as they are. -/
theorem active_append_iff (hown : ∀ d, .drop d ∈ segment → (loads before).length ≤ d)
    (hn : n < (loads before).length) : Active (before ++ segment) n ↔ Active before n := by
  induction segment using List.reverseRecOn with
  | nil => rw [List.append_nil]
  | append_singleton segment op ih =>
    rw [← List.append_assoc, active_concat_iff,
      ih fun d hd => hown d (List.mem_append_left _ hd)]
    constructor
    · rintro (⟨hact, -⟩ | ⟨-, heq⟩)
      · exact hact
      · have := length_loads_mono (List.prefix_append before segment)
        omega
    · intro hact
      refine .inl ⟨hact, fun d hop hle => ?_⟩
      have := hown d (by simp [hop])
      omega

/-! ## Closed segments -/

/-- The guards that the segment drops are those that it makes. -/
structure Closed (before segment : List Op) : Prop where
  own : ∀ d, .drop d ∈ segment → ∃ i, before.length ≤ i ∧ MadeAt (before ++ segment) d i
  all : ∀ n i, before.length ≤ i → MadeAt (before ++ segment) n i → .drop n ∈ segment

namespace Closed

theorem length_loads_le (hc : Closed before segment) (hd : .drop d ∈ segment) :
    (loads before).length ≤ d := by
  obtain ⟨i, hi, hmade⟩ := hc.own d hd
  exact hmade.length_loads_le hi

/-- After a closed segment the guards are active that were so before it. -/
theorem active_iff (hc : Closed before segment) (h : (fresh files log).Legal (before ++ segment)) :
    Active (before ++ segment) n ↔ Active before n := by
  by_cases hn : n < (loads before).length
  · exact active_append_iff (fun d hd => hc.length_loads_le hd) hn
  · refine iff_of_false (fun hact => ?_) fun hact => hn hact.lt_loads
    obtain ⟨i, hi, hmade⟩ := exists_madeAt_segment (Nat.le_of_not_lt hn) hact.lt_loads
    exact not_active_of_dropped h (List.mem_append_right _ (hc.all n i hi hmade)) hact

end Closed

/-- **What a closed segment leaves behind.** After operations of any kind, a segment that drops the
guards it makes, and no other, leaves the guard stack as it was: the same guards with the same
caches, so that tokenizers see what they saw before. -/
theorem restored_of_closed {s : Thread} (h : (fresh files log).Legal (before ++ segment))
    (hc : Closed before segment) (hs : (fresh files log).run before = s) :
    (s.run segment).host.guards.active = s.host.guards.active ∧
    (s.run segment).host.guards.visible = s.host.guards.visible ∧
    (s.run segment).host.guards.hasActive = s.host.guards.hasActive := by
  subst hs
  have hr := reflects_run (legal_append_iff.mp h).1
  have hr' := reflects_run h
  rw [run_append] at hr'
  have hactive : (((fresh files log).run before).run segment).host.guards.active =
      ((fresh files log).run before).host.guards.active := by
    refine GuardStack.eq_of_mem_iff hr'.sorted hr.sorted fun g => ?_
    rw [hr'.mem_iff, hr.mem_iff, hc.active_iff h]
    refine and_congr_right fun hact => ?_
    rw [loads_append, List.getElem?_append_left hact.lt_loads]
  refine ⟨hactive, ?_, ?_⟩
  · unfold GuardStack.visible
    rw [hactive]
  · unfold GuardStack.hasActive
    rw [hactive]

/-- Two guards, of which the older one is given away. -/
def opening : List Op :=
  [.load .empty, .load (CommandCache.empty.addCommand "cd"), .forget 0]

/-- The guards 2 to 5 are made. The drop of 3 releases 4 as well, so 4 is dropped when it is active no
more, and 2 is dropped before 5, which is younger. -/
def interleaved : List Op :=
  [.load .empty, .load .empty, .load .empty, .drop 3, .load .empty, .drop 4, .drop 2, .drop 5]

theorem closed_interleaved : Closed opening interleaved where
  own d hd := by
    simp only [interleaved, List.mem_cons, Op.drop.injEq, reduceCtorEq, false_or,
      List.not_mem_nil, or_false] at hd
    rcases hd with rfl | rfl | rfl | rfl
    · exact ⟨4, by decide, ⟨.empty, rfl⟩, rfl⟩
    · exact ⟨5, by decide, ⟨.empty, rfl⟩, rfl⟩
    · exact ⟨3, by decide, ⟨.empty, rfl⟩, rfl⟩
    · exact ⟨7, by decide, ⟨.empty, rfl⟩, rfl⟩
  all n i hi hmade := by
    have hlt := hmade.lt_loads
    have hle := hmade.length_loads_le hi
    have hcount : (loads (opening ++ interleaved)).length = 6 := rfl
    have hcount' : (loads opening).length = 2 := rfl
    rw [hcount] at hlt
    rw [hcount'] at hle
    obtain rfl | rfl | rfl | rfl : n = 2 ∨ n = 3 ∨ n = 4 ∨ n = 5 := by omega
    all_goals simp [interleaved]

theorem restored_of_closed_interleaved :
    let s := (fresh .empty .empty).run opening
    (fresh .empty .empty).Legal (opening ++ interleaved) ∧ Closed opening interleaved ∧
    s.host.guards.active.map (·.id) = [0, 1] ∧
    (s.run interleaved).host.guards.active = s.host.guards.active ∧
    (s.run interleaved).host.guards.visible = s.host.guards.visible ∧
    (s.run interleaved).host.guards.hasActive = s.host.guards.hasActive :=
  ⟨by decide, closed_interleaved, rfl, restored_of_closed (by decide) closed_interleaved rfl⟩

end Thread

end HighlightCheck
