import HighlightCheck.Proofs.Thread
import Mathlib.Data.List.Induction
import Mathlib.Order.Bounds.Basic

/-!
# Which guards are active

A guard is active from its making until an active guard is dropped that is the guard itself or was
made before it. That is said of the operations of a thread alone (`Active`), where the guards are
numbered by their making; a guard stack `Reflects` the operations if its active guards are those.

* `GuardStack.mem_release_iff`: what a release leaves active.
* `active_concat_iff`: the active guards after one more operation.
* `reflects_step`, `reflects_run`: the guard stack reflects the operations at any time.
* `Reflects.visible_eq_some_iff`: the cache that is visible is that of the last active guard.
* `guards_correct`: the guards of a thread after a run.
-/

namespace HighlightCheck

namespace GuardStack

/-- In the order of the numbers, a guard is in front of number `d` if it is smaller, or if there is
no such number. -/
theorem mem_takeWhile_id_iff {l : List Guard} (h : l.Pairwise (·.id < ·.id)) {g : Guard}
    {d : Nat} :
    g ∈ l.takeWhile (·.id != d) ↔ g ∈ l ∧ (d ≤ g.id → ∀ k ∈ l, k.id ≠ d) := by
  induction l with
  | nil => simp
  | cons first l ih =>
    obtain ⟨hfirst, hl⟩ := List.pairwise_cons.mp h
    by_cases hd : first.id = d
    · rw [List.takeWhile_cons_of_neg (by simp [hd])]
      refine ⟨fun hmem => absurd hmem List.not_mem_nil, fun ⟨hmem, hall⟩ => ?_⟩
      have hle : d ≤ g.id := by
        rcases List.mem_cons.mp hmem with rfl | hmem
        · omega
        · have := hfirst g hmem
          omega
      exact absurd hd (hall hle first List.mem_cons_self)
    · rw [List.takeWhile_cons_of_pos (by simp [hd]), List.mem_cons, List.mem_cons, ih hl]
      constructor
      · rintro (rfl | ⟨hmem, hall⟩)
        · refine ⟨.inl rfl, fun hle k hk => ?_⟩
          rcases List.mem_cons.mp hk with rfl | hk
          · exact hd
          · have := hfirst k hk
            omega
        · refine ⟨.inr hmem, fun hle k hk => ?_⟩
          rcases List.mem_cons.mp hk with rfl | hk
          · exact hd
          · exact hall hle k hk
      · rintro ⟨rfl | hmem, hall⟩
        · exact .inl rfl
        · exact .inr ⟨hmem, fun hle k hk => hall hle k (List.mem_cons_of_mem first hk)⟩

/-- A release takes away what has the number or a later one, if the number is active. -/
theorem mem_release_iff {s : GuardStack} (h : s.active.Pairwise (·.id < ·.id)) {g k : Guard} :
    k ∈ (s.release g).active ↔
      k ∈ s.active ∧ (g.id ≤ k.id → ∀ l ∈ s.active, l.id ≠ g.id) :=
  mem_takeWhile_id_iff h

theorem mem_of_mem_release {s : GuardStack} {g k : Guard} (h : k ∈ (s.release g).active) :
    k ∈ s.active ∧ k.id ≠ g.id :=
  ⟨List.takeWhile_subset _ h,
    bne_iff_ne.mp (List.mem_takeWhile_imp (p := fun k : Guard => k.id != g.id) h)⟩

end GuardStack

namespace Thread

/-! ## Activity by the operations alone -/

/-- The caches that guards were made for, in the order of the making. -/
def loads (ops : List Op) : List CommandCache :=
  ops.filterMap Op.cache?

/-- The guard with number `n` is made by operation `i`. -/
def MadeAt (ops : List Op) (n i : Nat) : Prop :=
  (∃ cache, ops[i]? = some (.load cache)) ∧ (loads (ops.take i)).length = n

/-- The guard with number `n` has been made, and since then no guard was dropped that was active
right before, and was the guard itself or one made earlier. -/
def Active (ops : List Op) (n : Nat) : Prop :=
  ∃ i, MadeAt ops n i ∧
    ∀ j d, i < j → (h : ops[j]? = some (.drop d)) → d ≤ n → ¬ Active (ops.take j) d
termination_by ops.length
decreasing_by
  obtain ⟨hlt, -⟩ := List.getElem?_eq_some_iff.mp h
  rw [List.length_take]
  omega

variable {ops : List Op} {op : Op} {n i : Nat}

@[simp] theorem loads_nil : loads [] = [] := rfl

@[simp] theorem loads_concat (ops : List Op) (op : Op) :
    loads (ops ++ [op]) = loads ops ++ op.cache?.toList := by
  cases h : op.cache? <;> simp [loads, h]

theorem loads_concat_of_other (ops : List Op) (hload : op.cache? = none) :
    loads (ops ++ [op]) = loads ops := by
  rw [loads_concat, hload, Option.toList_none, List.append_nil]

theorem loads_concat_getElem?_of_lt (h : n < (loads ops).length) (op : Op) :
    (loads (ops ++ [op]))[n]? = (loads ops)[n]? := by
  rw [loads_concat, List.getElem?_append_left h]

theorem loads_load_getElem? (ops : List Op) (cache : CommandCache) :
    (loads (ops ++ [.load cache]))[(loads ops).length]? = some cache := by
  rw [loads_concat]
  exact List.getElem?_concat_length

theorem active_iff :
    Active ops n ↔ ∃ i, MadeAt ops n i ∧
      ∀ j d, i < j → ops[j]? = some (.drop d) → d ≤ n → ¬ Active (ops.take j) d := by
  rw [Active]

theorem MadeAt.lt_length (h : MadeAt ops n i) : i < ops.length := by
  obtain ⟨⟨_, hi⟩, -⟩ := h
  exact (List.getElem?_eq_some_iff.mp hi).1

theorem madeAt_concat_iff :
    MadeAt (ops ++ [op]) n i ↔
      MadeAt ops n i ∨ i = ops.length ∧ (∃ cache, op = .load cache) ∧ (loads ops).length = n := by
  rcases Nat.lt_trichotomy i ops.length with hi | rfl | hi
  · unfold MadeAt
    rw [List.getElem?_append_left hi, List.take_append_of_le_length (Nat.le_of_lt hi)]
    constructor
    · exact .inl
    · rintro (h | ⟨rfl, -⟩)
      · exact h
      · omega
  · unfold MadeAt
    simp
  · constructor
    · intro h
      have := h.lt_length
      rw [List.length_append, List.length_singleton] at this
      omega
    · rintro (h | ⟨rfl, -⟩)
      · have := h.lt_length
        omega
      · omega

theorem MadeAt.lt_loads (h : MadeAt ops n i) : n < (loads ops).length := by
  induction ops using List.reverseRecOn with
  | nil => cases h.lt_length
  | append_singleton ops op ih =>
    rw [loads_concat, List.length_append]
    rcases madeAt_concat_iff.mp h with h | ⟨-, ⟨cache, rfl⟩, rfl⟩
    · have := ih h
      omega
    · exact Nat.lt_succ_self _

theorem Active.lt_loads (h : Active ops n) : n < (loads ops).length := by
  obtain ⟨i, hmade, -⟩ := active_iff.mp h
  exact hmade.lt_loads

/-- **One more operation.** A guard is active after it if it is made by it, or if it was active
before and no active guard is dropped that is as old. -/
theorem active_concat_iff :
    Active (ops ++ [op]) n ↔
      (Active ops n ∧ ∀ d, op = .drop d → d ≤ n → ¬ Active ops d) ∨
        (∃ cache, op = .load cache) ∧ (loads ops).length = n := by
  constructor
  · intro h
    obtain ⟨i, hmade, hdrops⟩ := active_iff.mp h
    rcases madeAt_concat_iff.mp hmade with hmade | ⟨-, hload, hn⟩
    · refine .inl ⟨active_iff.mpr ⟨i, hmade, fun j d hij hj hd => ?_⟩, fun d hop hd => ?_⟩
      · obtain ⟨hlt, -⟩ := List.getElem?_eq_some_iff.mp hj
        have := hdrops j d hij (by rw [List.getElem?_append_left hlt, hj]) hd
        rwa [List.take_append_of_le_length (Nat.le_of_lt hlt)] at this
      · have := hdrops ops.length d hmade.lt_length (by simp [hop]) hd
        rwa [List.take_left] at this
    · exact .inr ⟨hload, hn⟩
  · rintro (⟨hact, hop⟩ | ⟨hload, hn⟩)
    · obtain ⟨i, hmade, hdrops⟩ := active_iff.mp hact
      refine active_iff.mpr ⟨i, madeAt_concat_iff.mpr (.inl hmade), fun j d hij hj hd => ?_⟩
      rcases Nat.lt_trichotomy j ops.length with hlt | rfl | hlt
      · rw [List.getElem?_append_left hlt] at hj
        rw [List.take_append_of_le_length (Nat.le_of_lt hlt)]
        exact hdrops j d hij hj hd
      · rw [List.getElem?_concat_length, Option.some.injEq] at hj
        rw [List.take_left]
        exact hop d hj hd
      · obtain ⟨hlt', -⟩ := List.getElem?_eq_some_iff.mp hj
        rw [List.length_append, List.length_singleton] at hlt'
        omega
    · refine active_iff.mpr ⟨ops.length, madeAt_concat_iff.mpr (.inr ⟨rfl, hload, hn⟩), ?_⟩
      intro j d hij hj
      obtain ⟨hlt, -⟩ := List.getElem?_eq_some_iff.mp hj
      rw [List.length_append, List.length_singleton] at hlt
      omega

theorem not_active_nil (n : Nat) : ¬ Active [] n :=
  fun h => absurd h.lt_loads (Nat.not_lt_zero n)

theorem active_load_iff {cache : CommandCache} :
    Active (ops ++ [.load cache]) n ↔ Active ops n ∨ n = (loads ops).length := by
  rw [active_concat_iff]
  constructor
  · rintro (⟨h, -⟩ | ⟨-, rfl⟩)
    · exact .inl h
    · exact .inr rfl
  · rintro (h | rfl)
    · exact .inl ⟨h, fun d hop => by cases hop⟩
    · exact .inr ⟨⟨cache, rfl⟩, rfl⟩

theorem active_drop_iff {d : Nat} :
    Active (ops ++ [.drop d]) n ↔ Active ops n ∧ (d ≤ n → ¬ Active ops d) := by
  rw [active_concat_iff]
  constructor
  · rintro (⟨h, hd⟩ | ⟨⟨_, hop⟩, -⟩)
    · exact ⟨h, hd d rfl⟩
    · cases hop
  · rintro ⟨h, hd⟩
    refine .inl ⟨h, fun d' hop => ?_⟩
    cases hop
    exact hd

theorem active_other_iff (hload : op.cache? = none) (hdrop : op.dropped? = none) :
    Active (ops ++ [op]) n ↔ Active ops n := by
  rw [active_concat_iff]
  constructor
  · rintro (⟨h, -⟩ | ⟨⟨_, rfl⟩, -⟩)
    · exact h
    · cases hload
  · intro h
    refine .inl ⟨h, fun d hop => ?_⟩
    rw [hop] at hdrop
    cases hdrop

/-! ## The guard stack reflects the operations -/

/-- The active guards of `s` are those that the operations leave active, with their caches and in
the order of their making. -/
structure Reflects (ops : List Op) (s : GuardStack) : Prop where
  nextId_eq : s.nextId = (loads ops).length
  sorted : s.active.Pairwise (·.id < ·.id)
  mem_iff : ∀ g, g ∈ s.active ↔ Active ops g.id ∧ (loads ops)[g.id]? = some g.cache

namespace Reflects

variable {s : GuardStack}

theorem id_lt (h : Reflects ops s) {g : Guard} (hg : g ∈ s.active) : g.id < s.nextId := by
  rw [h.nextId_eq]
  exact ((h.mem_iff g).mp hg).1.lt_loads

/-- A number is that of an active guard exactly if the operations leave it active. -/
theorem exists_mem_iff (h : Reflects ops s) : (∃ g ∈ s.active, g.id = n) ↔ Active ops n := by
  constructor
  · rintro ⟨g, hg, rfl⟩
    exact ((h.mem_iff g).mp hg).1
  · intro hn
    have hlt := hn.lt_loads
    exact ⟨⟨n, (loads ops)[n]⟩, (h.mem_iff _).mpr ⟨hn, List.getElem?_eq_getElem hlt⟩, rfl⟩

theorem nil : Reflects [] .empty where
  nextId_eq := rfl
  sorted := List.Pairwise.nil
  mem_iff g := ⟨fun hg => absurd hg List.not_mem_nil, fun hg => absurd hg.1 (not_active_nil g.id)⟩

/-- A new guard gets a number that is greater than all others. -/
theorem push (h : Reflects ops s) (cache : CommandCache) :
    Reflects (ops ++ [.load cache]) (s.push cache) where
  nextId_eq := by
    rw [loads_concat, List.length_append, ← h.nextId_eq]
    rfl
  sorted := by
    refine List.pairwise_append.mpr ⟨h.sorted, List.pairwise_singleton _ _, fun g hg k hk => ?_⟩
    rw [List.mem_singleton.mp hk]
    exact h.id_lt hg
  mem_iff g := by
    rw [GuardStack.active_push, List.mem_append, List.mem_singleton, h.mem_iff, active_load_iff]
    constructor
    · rintro (⟨hact, hcache⟩ | rfl)
      · exact ⟨.inl hact, by rw [loads_concat_getElem?_of_lt hact.lt_loads, hcache]⟩
      · have hid : (s.fresh cache).id = (loads ops).length := h.nextId_eq
        exact ⟨.inr hid, by rw [hid]; exact loads_load_getElem? ops cache⟩
    · rintro ⟨hact | hid, hcache⟩
      · rw [loads_concat_getElem?_of_lt hact.lt_loads] at hcache
        exact .inl ⟨hact, hcache⟩
      · rw [hid, loads_load_getElem?, Option.some.injEq] at hcache
        rw [← h.nextId_eq] at hid
        rcases g with ⟨_, _⟩
        cases hid
        cases hcache
        exact .inr rfl

/-- A release takes away as much as the drop of a guard with that number makes inactive. -/
theorem release (h : Reflects ops s) (g : Guard) :
    Reflects (ops ++ [.drop g.id]) (s.release g) where
  nextId_eq := by
    rw [loads_concat_of_other ops rfl]
    exact h.nextId_eq
  sorted := h.sorted.sublist (List.takeWhile_sublist _)
  mem_iff k := by
    rw [GuardStack.mem_release_iff h.sorted, h.mem_iff, active_drop_iff,
      loads_concat_of_other ops rfl]
    have hnone : (∀ l ∈ s.active, l.id ≠ g.id) ↔ ¬ Active ops g.id := by
      rw [← h.exists_mem_iff]
      simp
    rw [hnone]
    exact and_right_comm

theorem of_other (h : Reflects ops s) (hload : op.cache? = none) (hdrop : op.dropped? = none) :
    Reflects (ops ++ [op]) s where
  nextId_eq := by
    rw [loads_concat_of_other ops hload]
    exact h.nextId_eq
  sorted := h.sorted
  mem_iff g := by
    rw [active_other_iff hload hdrop, loads_concat_of_other ops hload]
    exact h.mem_iff g

/-- The number of the last active guard is the greatest that the operations leave active. -/
theorem visible_eq_some_iff (h : Reflects ops s) {cache : CommandCache} :
    s.visible = some cache ↔
      ∃ n, IsGreatest {n | Active ops n} n ∧ (loads ops)[n]? = some cache := by
  unfold GuardStack.visible
  rcases List.eq_nil_or_concat s.active with hnil | ⟨init, last, hactive⟩
  · rw [hnil]
    refine ⟨fun hnone => (Option.some_ne_none _ hnone.symm).elim, ?_⟩
    rintro ⟨n, ⟨hn, -⟩, -⟩
    obtain ⟨g, hg, -⟩ := h.exists_mem_iff.mpr hn
    rw [hnil] at hg
    cases hg
  · rw [List.concat_eq_append] at hactive
    have hlast : last ∈ s.active := by simp [hactive]
    obtain ⟨hact, hcache⟩ := (h.mem_iff last).mp hlast
    have hgreatest : IsGreatest {n | Active ops n} last.id := by
      refine ⟨hact, fun n hn => ?_⟩
      obtain ⟨g, hg, rfl⟩ := h.exists_mem_iff.mpr hn
      have hsorted := h.sorted
      rw [hactive] at hg hsorted
      rcases List.mem_append.mp hg with hg | hg
      · exact Nat.le_of_lt ((List.pairwise_append.mp hsorted).2.2 g hg last (by simp))
      · rw [List.mem_singleton.mp hg]
    rw [hactive, List.getLast?_concat, Option.map_some]
    constructor
    · intro hc
      exact ⟨last.id, hgreatest, hcache.trans hc⟩
    · rintro ⟨n, hn, hc⟩
      rw [hn.unique hgreatest, hcache] at hc
      exact hc

theorem active_eq_nil_iff (h : Reflects ops s) : s.active = [] ↔ ∀ n, ¬ Active ops n := by
  constructor
  · intro hnil n hn
    obtain ⟨g, hg, -⟩ := h.exists_mem_iff.mpr hn
    rw [hnil] at hg
    cases hg
  · intro hnone
    refine List.eq_nil_iff_forall_not_mem.mpr fun g hg => hnone g.id ?_
    exact h.exists_mem_iff.mp ⟨g, hg, rfl⟩

theorem hasActive_iff (h : Reflects ops s) : s.hasActive = true ↔ ∃ n, Active ops n := by
  have hnil := h.active_eq_nil_iff
  rw [← List.isEmpty_iff] at hnil
  unfold GuardStack.hasActive
  rw [Bool.not_eq_true', ← Bool.not_eq_true, hnil]
  simp

theorem visible_eq_none_iff (h : Reflects ops s) :
    s.visible = none ↔ ∀ n, ¬ Active ops n := by
  rw [← h.active_eq_nil_iff]
  unfold GuardStack.visible
  rw [Option.map_eq_none_iff, List.getLast?_eq_none_iff]

end Reflects

/-- The guards of a list are guards that were made, in the order of their making, and each has the
number and the cache that it was made with. -/
structure Numbered (ops : List Op) (held : List Guard) : Prop where
  sorted : held.Pairwise (·.id < ·.id)
  made : ∀ g ∈ held, (loads ops)[g.id]? = some g.cache

theorem Numbered.id_lt {held : List Guard} (h : Numbered ops held) {g : Guard} (hg : g ∈ held) :
    g.id < (loads ops).length :=
  (List.getElem?_eq_some_iff.mp (h.made g hg)).1

theorem Numbered.concat {held : List Guard} (h : Numbered ops held) (op : Op) :
    Numbered (ops ++ [op]) held where
  sorted := h.sorted
  made g hg := by rw [loads_concat_getElem?_of_lt (h.id_lt hg), h.made g hg]

theorem Numbered.sublist {held held' : List Guard} (h : Numbered ops held)
    (hs : held'.Sublist held) : Numbered ops held' where
  sorted := h.sorted.sublist hs
  made g hg := h.made g (hs.subset hg)

theorem Numbered.load {held : List Guard} (h : Numbered ops held) {s : GuardStack}
    (hs : s.nextId = (loads ops).length) (cache : CommandCache) :
    Numbered (ops ++ [.load cache]) (held ++ [s.fresh cache]) where
  sorted := by
    refine List.pairwise_append.mpr ⟨h.sorted, List.pairwise_singleton _ _, fun g hg k hk => ?_⟩
    have hlt := h.id_lt hg
    rw [List.mem_singleton.mp hk]
    show g.id < s.nextId
    omega
  made g hg := by
    rcases List.mem_append.mp hg with hg | hg
    · exact (h.concat _).made g hg
    · rw [List.mem_singleton.mp hg]
      show (loads (ops ++ [.load cache]))[s.nextId]? = some cache
      rw [hs, loads_load_getElem?]

/-! ## Runs -/

variable {s : Thread}

/-- **One step.** The guard stack still reflects the operations, however the step ends. -/
theorem reflects_step (h : Reflects ops s.host.guards) (ha : s.Allows op) :
    Reflects (ops ++ [op]) (s.step op).2.host.guards := by
  rcases op.cases_load_drop with ⟨cache, rfl⟩ | ⟨id, rfl⟩ | ⟨hload, hdrop⟩
  · rw [guards_step_load]
    exact h.push cache
  · obtain ⟨g, rfl, hg⟩ := guards_step_drop ha
    rw [hg]
    exact h.release g
  · rw [guards_step_of_other hload hdrop]
    exact h.of_other hload hdrop

theorem numbered_step (h : Numbered ops s.held) (hr : Reflects ops s.host.guards) (op : Op) :
    Numbered (ops ++ [op]) (s.step op).2.held := by
  cases hload : op.cache? with
  | none => exact (h.concat op).sublist (held_step_sublist hload)
  | some cache =>
    cases op with
    | load cache =>
      rw [held_step_load]
      split
      · exact h.load hr.nextId_eq cache
      · exact h.concat _
    | _ => cases hload

variable {files : FileTree} {log : LogSlot}

theorem reflects_run (h : (fresh files log).Legal ops) :
    Reflects ops ((fresh files log).run ops).host.guards := by
  induction ops using List.reverseRecOn with
  | nil => exact Reflects.nil
  | append_singleton ops op ih =>
    obtain ⟨hops, hop⟩ := legal_concat_iff.mp h
    rw [run_concat]
    exact reflects_step (ih hops) hop

theorem numbered_run (h : (fresh files log).Legal ops) :
    Numbered ops ((fresh files log).run ops).held := by
  induction ops using List.reverseRecOn with
  | nil => exact ⟨List.Pairwise.nil, fun g hg => absurd hg List.not_mem_nil⟩
  | append_singleton ops op ih =>
    obtain ⟨hops, -⟩ := legal_concat_iff.mp h
    rw [run_concat]
    exact numbered_step (ih hops) (reflects_run hops) op

/-- **The guards of a thread.** After operations of any kind and in any order, whatever the listeners
do, the guard stack holds exactly the guards that the operations leave active, in the order of their
making and with their caches. The drop of any other guard does nothing. Tokenizers see the cache of
the last active guard. -/
theorem guards_correct (h : (fresh files log).Legal ops) (hs : (fresh files log).run ops = s) :
    (∀ g, g ∈ s.host.guards.active ↔ Active ops g.id ∧ (loads ops)[g.id]? = some g.cache) ∧
    s.host.guards.active.Pairwise (·.id < ·.id) ∧
    s.host.guards.nextId = (loads ops).length ∧
    (∀ g ∈ s.host.guards.active, g.id < s.host.guards.nextId) ∧
    (∀ g ∈ s.held, (loads ops)[g.id]? = some g.cache) ∧
    s.held.Pairwise (·.id < ·.id) ∧
    (∀ d, ¬ Active ops d →
      (s.step (.drop d)).1 = .ok () ∧ (s.step (.drop d)).2.host = s.host) ∧
    (∀ cache, s.host.guards.visible = some cache ↔
      ∃ n, IsGreatest {n | Active ops n} n ∧ (loads ops)[n]? = some cache) ∧
    (s.host.guards.visible = none ↔ ∀ n, ¬ Active ops n) ∧
    (s.host.guards.hasActive = true ↔ ∃ n, Active ops n) := by
  subst hs
  have hr := reflects_run h
  have hn := numbered_run h
  refine ⟨hr.mem_iff, hr.sorted, hr.nextId_eq, fun g hg => hr.id_lt hg, hn.made, hn.sorted,
    fun d hd => ?_, fun cache => hr.visible_eq_some_iff, hr.visible_eq_none_iff,
    hr.hasActive_iff⟩
  refine step_drop_of_inactive fun g hg hid => hd ?_
  exact hr.exists_mem_iff.mp ⟨g, hg, hid⟩

/-- The guards 1 and 2 are released together, so guard 2 is dropped when a later one is active. -/
def staleDrop : List Op :=
  [.load .empty, .load .empty, .load .empty, .drop 1, .load .empty, .drop 2, .forget 0]

theorem guards_correct_of_staleDrop :
    (fresh .empty .empty).Legal staleDrop ∧
    (∀ g, g ∈ ((fresh .empty .empty).run staleDrop).host.guards.active ↔
      Active staleDrop g.id ∧ (loads staleDrop)[g.id]? = some g.cache) ∧
    ((fresh .empty .empty).run staleDrop).host.guards.active.map (·.id) = [0, 3] :=
  ⟨by decide, (guards_correct (by decide) rfl).1, rfl⟩

end Thread

end HighlightCheck
