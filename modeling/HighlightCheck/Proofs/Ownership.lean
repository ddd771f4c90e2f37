import HighlightCheck.Proofs.Activity

/-!
# Who holds the active guards

When no guard is given away, an active guard is held by somebody, unless its making has ended in a
fault: the record of a new guard is emitted when the guard is active already, and if a listener fails
on it, nobody is given the guard. Such a guard is an orphan.

* `orphaned_concat_iff`: the orphans after one more operation.
* `covered_step`, `covered_run`: an active guard is held exactly if it is no orphan.
* `active_concat_of_orphaned`: an orphan stays active until an older guard is dropped.
* `owned_iff`: when every active guard is held, and what follows when none is.
* `orphaned_of_failedLoad`: a thread on which an active guard is held by nobody.
-/

namespace HighlightCheck.Thread

/-- The making of guard `n` has ended in a fault. -/
def Orphaned (start : Thread) (ops : List Op) (n : Nat) : Prop :=
  ∃ i op f, MadeAt ops n i ∧ ops[i]? = some op ∧
    ((start.run (ops.take i)).step op).1 = .error f

/-- An active guard is held exactly if its making has not ended in a fault. -/
def Covered (start : Thread) (ops : List Op) (s : Thread) : Prop :=
  ∀ g ∈ s.host.guards.active, g ∈ s.held ↔ ¬ Orphaned start ops g.id

variable {start s : Thread} {ops : List Op} {op : Op} {n : Nat}

/-! ## Orphans -/

theorem Orphaned.lt_loads (h : Orphaned start ops n) : n < (loads ops).length := by
  obtain ⟨i, op, f, hmade, -⟩ := h
  exact hmade.lt_loads

/-- An orphan is made by an operation that ends in a fault, and is one for good. -/
theorem orphaned_concat_iff :
    Orphaned start (ops ++ [op]) n ↔ Orphaned start ops n ∨
      (∃ cache, op = .load cache) ∧ (loads ops).length = n ∧
        ∃ f, ((start.run ops).step op).1 = .error f := by
  constructor
  · rintro ⟨i, op', f, hmade, hop, hf⟩
    rcases madeAt_concat_iff.mp hmade with hmade | ⟨rfl, hload, hn⟩
    · have hlt := hmade.lt_length
      rw [List.getElem?_append_left hlt] at hop
      rw [List.take_append_of_le_length (Nat.le_of_lt hlt)] at hf
      exact .inl ⟨i, op', f, hmade, hop, hf⟩
    · rw [List.getElem?_concat_length, Option.some.injEq] at hop
      subst hop
      rw [List.take_left] at hf
      exact .inr ⟨hload, hn, f, hf⟩
  · rintro (⟨i, op', f, hmade, hop, hf⟩ | ⟨hload, hn, f, hf⟩)
    · have hlt := hmade.lt_length
      refine ⟨i, op', f, madeAt_concat_iff.mpr (.inl hmade), ?_, ?_⟩
      · rw [List.getElem?_append_left hlt, hop]
      · rw [List.take_append_of_le_length (Nat.le_of_lt hlt), hf]
    · refine ⟨ops.length, op, f, madeAt_concat_iff.mpr (.inr ⟨rfl, hload, hn⟩),
        List.getElem?_concat_length, ?_⟩
      rw [List.take_left, hf]

theorem orphaned_concat_iff_of_ne (h : n ≠ (loads ops).length) :
    Orphaned start (ops ++ [op]) n ↔ Orphaned start ops n := by
  rw [orphaned_concat_iff]
  constructor
  · rintro (horphan | ⟨-, rfl, -⟩)
    · exact horphan
    · exact absurd rfl h
  · exact .inl

theorem orphaned_load_iff {cache : CommandCache} :
    Orphaned start (ops ++ [.load cache]) (loads ops).length ↔
      ∃ f, ((start.run ops).step (.load cache)).1 = .error f := by
  rw [orphaned_concat_iff]
  constructor
  · rintro (horphan | ⟨-, -, hf⟩)
    · exact absurd horphan.lt_loads (Nat.lt_irrefl _)
    · exact hf
  · intro hf
    exact .inr ⟨⟨cache, rfl⟩, rfl, hf⟩

/-! ## Active guards are held -/

/-- A new guard is held or an orphan, and no guard made before changes. -/
theorem Covered.load {cache : CommandCache} (hc : Covered start ops (start.run ops))
    (hr : Reflects ops (start.run ops).host.guards) (hn : Numbered ops (start.run ops).held) :
    Covered start (ops ++ [.load cache]) ((start.run ops).step (.load cache)).2 := by
  intro g hg
  rw [guards_step_load, GuardStack.active_push, List.mem_append, List.mem_singleton] at hg
  rw [held_step_load]
  rcases hg with hg | rfl
  · have hlt := ((hr.mem_iff g).mp hg).1.lt_loads
    rw [orphaned_concat_iff_of_ne (Nat.ne_of_lt hlt), ← hc g hg]
    split
    · rw [List.mem_append, List.mem_singleton]
      refine ⟨?_, .inl⟩
      rintro (hheld | rfl)
      · exact hheld
      · exact absurd (hr.id_lt hg) (Nat.lt_irrefl _)
    · exact Iff.rfl
  · have hid : ((start.run ops).host.guards.fresh cache).id = (loads ops).length := hr.nextId_eq
    rw [hid, orphaned_load_iff]
    cases hstep : ((start.run ops).step (.load cache)).1 with
    | ok _ => simp
    | error f =>
      refine ⟨fun hheld => ?_, fun hnone => absurd ⟨f, rfl⟩ hnone⟩
      have hlt := hn.id_lt hheld
      omega

/-- A dropped guard is not active any more, so nobody has to hold it. -/
theorem Covered.drop {id : Nat} (hc : Covered start ops s) (ha : s.Allows (.drop id)) :
    Covered start (ops ++ [.drop id]) (s.step (.drop id)).2 := by
  intro g hg
  obtain ⟨k, rfl, hk⟩ := guards_step_drop ha
  rw [hk] at hg
  obtain ⟨hmem, hne⟩ := GuardStack.mem_of_mem_release hg
  rw [held_step_drop, List.mem_filter, hc g hmem, orphaned_concat_iff]
  simp [hne]

theorem Covered.of_other (hc : Covered start ops s) (hload : op.cache? = none)
    (hdrop : op.dropped? = none) (hforget : ∀ id, op ≠ .forget id) :
    Covered start (ops ++ [op]) (s.step op).2 := by
  intro g hg
  rw [guards_step_of_other hload hdrop] at hg
  rw [held_step_of_other hload hdrop hforget, hc g hg, orphaned_concat_iff]
  have hne : ¬ ∃ cache, op = .load cache := by
    rintro ⟨cache, rfl⟩
    cases hload
  simp [hne]

/-- **One step.** Nothing but a load that ends in a fault leaves an active guard to nobody. -/
theorem covered_step (hc : Covered start ops (start.run ops))
    (hr : Reflects ops (start.run ops).host.guards) (hn : Numbered ops (start.run ops).held)
    (ha : (start.run ops).Allows op) (hforget : ∀ id, op ≠ .forget id) :
    Covered start (ops ++ [op]) ((start.run ops).step op).2 := by
  rcases op.cases_load_drop with ⟨cache, rfl⟩ | ⟨id, rfl⟩ | ⟨hload, hdrop⟩
  · exact hc.load hr hn
  · exact hc.drop ha
  · exact hc.of_other hload hdrop hforget

variable {files : FileTree} {log : LogSlot}

theorem covered_run (h : (fresh files log).Legal ops) (hforget : ∀ id, .forget id ∉ ops) :
    Covered (fresh files log) ops ((fresh files log).run ops) := by
  induction ops using List.reverseRecOn with
  | nil => exact fun g hg => absurd hg List.not_mem_nil
  | append_singleton ops op ih =>
    obtain ⟨hops, hop⟩ := legal_concat_iff.mp h
    have hc := ih hops fun id hmem => hforget id (List.mem_append_left _ hmem)
    rw [run_concat]
    refine covered_step hc (reflects_run hops) (numbered_run hops) hop ?_
    rintro id rfl
    exact hforget id (by simp)

/-- Nobody can drop an orphan, so it stays active until an older guard is dropped. -/
theorem active_concat_of_orphaned (h : (fresh files log).Legal (ops ++ [op]))
    (hforget : ∀ id, .forget id ∉ ops) (ho : Orphaned (fresh files log) ops n)
    (ha : Active ops n) : Active (ops ++ [op]) n ∨ ∃ d, d < n ∧ op = .drop d := by
  obtain ⟨hops, hop⟩ := legal_concat_iff.mp h
  by_cases hd : ∃ d, op = .drop d ∧ d ≤ n
  · obtain ⟨d, rfl, hle⟩ := hd
    refine .inr ⟨d, Nat.lt_of_le_of_ne hle ?_, rfl⟩
    -- A guard that is held under number `n` would be the active one, which is an orphan.
    rintro rfl
    obtain ⟨g, hheld, rfl⟩ := List.mem_map.mp hop
    have hg := ((reflects_run hops).mem_iff g).mpr ⟨ha, (numbered_run hops).made g hheld⟩
    exact (covered_run hops hforget g hg).mp hheld ho
  · exact .inl (active_concat_iff.mpr (.inl ⟨ha, fun d hop hle => absurd ⟨d, hop, hle⟩ hd⟩))

theorem Covered.all_held_iff (hc : Covered start ops s) (hr : Reflects ops s.host.guards) :
    (∀ g ∈ s.host.guards.active, g ∈ s.held) ↔ ∀ n, Orphaned start ops n → ¬ Active ops n := by
  constructor
  · intro hall n horphan hact
    obtain ⟨g, hg, rfl⟩ := hr.exists_mem_iff.mpr hact
    exact (hc g hg).mp (hall g hg) horphan
  · intro hnone g hg
    exact (hc g hg).mpr fun horphan => hnone g.id horphan ((hr.mem_iff g).mp hg).1

/-- When nobody holds a guard, the active ones are the active orphans. -/
theorem Covered.active_eq_nil_iff (hc : Covered start ops s) (hr : Reflects ops s.host.guards)
    (hheld : s.held = []) :
    s.host.guards.active = [] ↔ ∀ n, Orphaned start ops n → ¬ Active ops n := by
  rw [← hc.all_held_iff hr, hheld]
  constructor
  · intro hnil g hg
    rw [hnil] at hg
    exact hg
  · intro hall
    exact List.eq_nil_iff_forall_not_mem.mpr fun g hg => List.not_mem_nil (hall g hg)

/-- **Who holds the active guards.** If no guard is given away, an active guard is held exactly if
its making has not ended in a fault. So all active guards are held exactly as long as no orphan is
active. A load that ends in a fault leaves an orphan, and when no guard is held any more, a cache is
visible exactly if there is an active orphan. -/
theorem owned_iff (h : (fresh files log).Legal ops) (hforget : ∀ id, .forget id ∉ ops)
    (hs : (fresh files log).run ops = s) :
    (∀ g ∈ s.host.guards.active, g ∈ s.held ↔ ¬ Orphaned (fresh files log) ops g.id) ∧
    ((∀ g ∈ s.host.guards.active, g ∈ s.held) ↔
      ∀ n, Orphaned (fresh files log) ops n → ¬ Active ops n) ∧
    (∀ cache f, (s.step (.load cache)).1 = .error f →
      (s.step (.load cache)).2.host.guards.active =
        s.host.guards.active ++ [s.host.guards.fresh cache] ∧
      (s.step (.load cache)).2.held = s.held) ∧
    (s.held = [] →
      (s.host.guards.hasActive = false ↔
        ∀ n, Orphaned (fresh files log) ops n → ¬ Active ops n) ∧
      (s.host.guards.visible = none ↔
        ∀ n, Orphaned (fresh files log) ops n → ¬ Active ops n)) := by
  subst hs
  have hr := reflects_run h
  have hc := covered_run h hforget
  refine ⟨hc, hc.all_held_iff hr, fun cache f hf => ⟨?_, ?_⟩, fun hheld => ⟨?_, ?_⟩⟩
  · rw [guards_step_load, GuardStack.active_push]
  · rw [held_step_load, hf]
  · rw [← hc.active_eq_nil_iff hr hheld]
    unfold GuardStack.hasActive
    rw [Bool.not_eq_false', List.isEmpty_iff]
  · rw [← hc.active_eq_nil_iff hr hheld]
    unfold GuardStack.visible
    rw [Option.map_eq_none_iff, List.getLast?_eq_none_iff]

/-- A listener that fails on every record. -/
def failing : Listener :=
  ⟨none, fun _ _ => .failed "no"⟩

/-- The listener fails on the record of the new guard. -/
def failedLoad : List Op :=
  [.setListener failing, .load .empty]

theorem owned_iff_of_failedLoad :
    (fresh .empty .empty).Legal failedLoad ∧ (∀ id, .forget id ∉ failedLoad) ∧
    (∀ g ∈ ((fresh .empty .empty).run failedLoad).host.guards.active,
      g ∈ ((fresh .empty .empty).run failedLoad).held ↔
        ¬ Orphaned (fresh .empty .empty) failedLoad g.id) ∧
    (((fresh .empty .empty).run failedLoad).host.guards.hasActive = false ↔
      ∀ n, Orphaned (fresh .empty .empty) failedLoad n → ¬ Active failedLoad n) := by
  have hlegal : (fresh .empty .empty).Legal failedLoad := by decide
  have hforget : ∀ id, Op.forget id ∉ failedLoad := by simp [failedLoad]
  obtain ⟨howned, -, -, hnone⟩ := owned_iff hlegal hforget rfl
  exact ⟨hlegal, hforget, howned, (hnone rfl).1⟩

/-- **An orphan.** A load that ends in a fault leaves a guard active that nobody holds, and its cache
stays visible. -/
theorem orphaned_of_failedLoad :
    (fresh .empty .empty).Legal failedLoad ∧ (∀ id, .forget id ∉ failedLoad) ∧
    (((fresh .empty .empty).run [.setListener failing]).step (.load .empty)).1 =
      .error (.listener "no") ∧
    ((fresh .empty .empty).run [.setListener failing]).host.guards.active = [] ∧
    ((fresh .empty .empty).run failedLoad).host.guards.active = [⟨0, .empty⟩] ∧
    ((fresh .empty .empty).run failedLoad).held = [] ∧
    ((fresh .empty .empty).run failedLoad).host.guards.hasActive = true ∧
    ((fresh .empty .empty).run failedLoad).host.guards.visible = some .empty :=
  ⟨by decide, by simp [failedLoad], rfl, rfl, rfl, rfl, rfl, rfl⟩

end HighlightCheck.Thread
