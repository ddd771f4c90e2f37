import HighlightCheck.Proofs.Ledger
import Mathlib.Data.Finset.Dedup

/-!
# Guards dropped in any order

The drop of a guard releases others with it, so that a later drop may find nothing left to release.
What one drop releases and tells therefore depends on those before it, but what all of them leave does
not: it is what is active before the first guard that any of them drops.

* `TellReleased`: events that tell of released guards, and of how many.
* `tellReleased_drop`, `tellReleased_drops`: one drop and many drops tell of what is active no more.
* `ReleasedSince`: the same of the records that a log has received. `TellReleased.releasedSince`: what
  is told is received.
* `active_drops`: what drops leave active, whatever their order.
* `drops_commute`: the drops of a set of guards.
-/

namespace HighlightCheck

namespace Thread

open LogSlot (Event)

variable {s : Thread} {order : List Nat} {d : Nat}

/-- The operations that drop guards one after the other. -/
def drops (order : List Nat) : List Op :=
  order.map .drop

/-! ## What can be dropped -/

theorem mem_held_step_drop {e : Nat} (h : e ∈ s.held.map (·.id)) (hne : e ≠ d) :
    e ∈ (s.step (.drop d)).2.held.map (·.id) := by
  obtain ⟨g, hg, rfl⟩ := List.mem_map.mp h
  rw [held_step_drop]
  exact List.mem_map_of_mem (List.mem_filter.mpr ⟨hg, bne_iff_ne.mpr hne⟩)

/-- Guards that are held can be dropped in any order, each of them once. -/
theorem legal_drops (hnodup : order.Nodup) (hheld : ∀ d ∈ order, d ∈ s.held.map (·.id)) :
    s.Legal (drops order) := by
  induction order generalizing s with
  | nil => trivial
  | cons d order ih =>
    obtain ⟨hd, hnodup⟩ := List.nodup_cons.mp hnodup
    refine ⟨hheld d List.mem_cons_self, ih hnodup fun e he => ?_⟩
    exact mem_held_step_drop (hheld e (List.mem_cons_of_mem d he)) (ne_of_mem_of_not_mem he hd)

/-! ## What drops leave active -/

theorem active_step_drop (h : s.Allows (.drop d)) :
    (s.step (.drop d)).2.host.guards.active = s.host.guards.active.takeWhile (·.id != d) := by
  obtain ⟨g, rfl, hguards⟩ := guards_step_drop h
  rw [hguards, GuardStack.active_release]

/-- Drops leave what is active before the first guard that is dropped. -/
theorem active_drops (h : s.Legal (drops order)) :
    (s.run (drops order)).host.guards.active =
      s.host.guards.active.takeWhile (·.id ∉ order) := by
  induction order generalizing s with
  | nil => exact (List.takeWhile_eq_self_iff.mpr fun g _ => rfl).symm
  | cons d order ih =>
    obtain ⟨hd, hrest⟩ := h
    show ((s.step (.drop d)).2.run (drops order)).host.guards.active = _
    rw [ih hrest, active_step_drop hd, List.takeWhile_takeWhile]
    congr
    funext g
    rw [Bool.eq_iff_iff]
    simp [and_comm]

/-! ## What drops tell -/

/-- The events emit records of released guards and nothing else, and the counts in them make up
`total`. -/
def TellReleased (events : List Event) (total : Nat) : Prop :=
  ∃ (records : List LogRecord) (notices : List Notice), events = records.map .emit ∧
    records.mapM LogRecord.notice? = some notices ∧
    (∀ n ∈ notices, ∃ id count, n = .released id count) ∧
    (notices.map Notice.count).sum = total

theorem TellReleased.nil : TellReleased [] 0 :=
  ⟨[], [], rfl, rfl, nofun, rfl⟩

theorem TellReleased.append {events events' : List Event} {total total' : Nat}
    (h : TellReleased events total) (h' : TellReleased events' total') :
    TellReleased (events ++ events') (total + total') := by
  obtain ⟨records, notices, rfl, hread, hreleased, rfl⟩ := h
  obtain ⟨records', notices', rfl, hread', hreleased', rfl⟩ := h'
  refine ⟨records ++ records', notices ++ notices', List.map_append.symm, ?_,
    List.forall_mem_append.mpr ⟨hreleased, hreleased'⟩, ?_⟩
  · rw [List.mapM_append, hread, hread']
    rfl
  · rw [List.map_append, List.sum_append]

/-- A drop tells of as many guards as are active no more. -/
theorem tellReleased_drop (h : s.Allows (.drop d)) :
    ∃ total, TellReleased (s.eventsOf (.drop d)) total ∧
      (s.step (.drop d)).2.host.guards.active.length + total = s.host.guards.active.length := by
  obtain ⟨g, hg⟩ := exists_find?_of_allows_drop h
  have hguards : (s.step (.drop d)).2.host.guards = s.host.guards.release g := by
    rw [host_step_drop hg]
    exact Action.guards_drop g _
  have hle := (List.takeWhile_sublist (fun k : Guard => k.id != g.id)
    (l := s.host.guards.active)).length_le
  rw [← GuardStack.active_release] at hle
  refine ⟨s.host.guards.released g, ?_, ?_⟩
  · rw [eventsOf_drop hg]
    split
    · rename_i hzero
      rw [hzero]
      exact .nil
    · refine ⟨[s.host.releaseRecord g], [.released g.id (s.host.guards.released g)], rfl, ?_, ?_,
        rfl⟩
      · rw [List.mapM_cons, notice?_releaseRecord]
        rfl
      · intro n hn
        exact ⟨_, _, List.mem_singleton.mp hn⟩
  · rw [hguards, GuardStack.released]
    omega

/-- The records that `s` has and `log` has not are notices of released guards, and the counts in them
make up `total`. -/
def ReleasedSince (log : LogSlot) (s : Thread) (total : Nat) : Prop :=
  ∃ notices, noticesSince? log s = some notices ∧
    (∀ n ∈ notices, ∃ id count, n = .released id count) ∧
    (notices.map Notice.count).sum = total

/-- A listener that fails on nothing receives what is told. -/
theorem TellReleased.releasedSince {events : List Event} {total : Nat} {log : LogSlot} {l : Listener}
    (h : TellReleased events total) (hlog : s.host.log = log.replay events)
    (hr : log.receiver = some l) (hl : l.Reliable) : ReleasedSince log s total := by
  obtain ⟨records, notices, rfl, hread, hreleased, htotal⟩ := h
  have hrecords : s.host.log.records = log.records ++ records := by
    rw [hlog]
    exact LogSlot.records_emitAll_of_receiver hr hl records
  refine ⟨notices, ?_, hreleased, htotal⟩
  rw [noticesSince?, hrecords, List.drop_left, hread]

/-- **Many drops.** They tell of as many guards as are active no more, though each of them may tell of
more or of fewer in another order. -/
theorem tellReleased_drops (h : s.Legal (drops order)) :
    ∃ total, TellReleased (s.events (drops order)) total ∧
      (s.run (drops order)).host.guards.active.length + total = s.host.guards.active.length := by
  induction order generalizing s with
  | nil => exact ⟨0, .nil, rfl⟩
  | cons d order ih =>
    obtain ⟨hd, hrest⟩ := h
    obtain ⟨first, hfirst, hlength⟩ := tellReleased_drop hd
    obtain ⟨rest, hrest, hlength'⟩ := ih hrest
    refine ⟨first + rest, hfirst.append hrest, ?_⟩
    show ((s.step (.drop d)).2.run (drops order)).host.guards.active.length + _ = _
    omega

/-- **Drops in any order.** Let `chosen` be guards that are held, active or not. In whatever order they
are dropped, the active guards before the first one of the set stay active, which are all of them if
none is in the set. What the drops tell of released guards adds up to the same number: that is so of
the events that they are for the log, and of the records that a listener receives if it fails on
nothing. -/
theorem drops_commute {chosen : Finset Nat} (hchosen : ∀ d ∈ chosen, d ∈ s.held.map (·.id)) :
    ∃ kept total,
      (∀ g ∈ kept, g.id ∉ chosen) ∧
      (s.host.guards.active = kept ∨
        ∃ g later, s.host.guards.active = kept ++ g :: later ∧ g.id ∈ chosen) ∧
      kept.length + total = s.host.guards.active.length ∧
      ∀ order : List Nat, order.Nodup → order.toFinset = chosen →
        s.Legal (drops order) ∧
        (s.run (drops order)).host.guards.active = kept ∧
        TellReleased (s.events (drops order)) total ∧
        (s.run (drops order)).host.log = s.host.log.replay (s.events (drops order)) ∧
        ∀ l, s.host.log.receiver = some l → l.Reliable →
          ReleasedSince s.host.log (s.run (drops order)) total := by
  have hle := (List.takeWhile_sublist (·.id ∉ chosen) (l := s.host.guards.active)).length_le
  refine ⟨s.host.guards.active.takeWhile (·.id ∉ chosen), _,
    fun g hg => by simpa using List.mem_takeWhile_imp hg, ?_, Nat.add_sub_of_le hle, ?_⟩
  · rcases GuardStack.eq_takeWhile_or (·.id ∉ chosen) s.host.guards.active with
      hall | ⟨g, later, hsplit, hg⟩
    · exact .inl hall
    · exact .inr ⟨g, later, hsplit, by simpa using hg⟩
  · intro order hnodup horder
    have hmem (d : Nat) : d ∈ order ↔ d ∈ chosen := by rw [← horder, List.mem_toFinset]
    have hlegal := legal_drops hnodup fun d hd => hchosen d ((hmem d).mp hd)
    have hactive : (s.run (drops order)).host.guards.active =
        s.host.guards.active.takeWhile (·.id ∉ chosen) := by
      simp only [active_drops hlegal, hmem]
    -- The drops tell of all that is missing in the end, in which no order occurs.
    obtain ⟨total, htold, htotal⟩ := tellReleased_drops hlegal
    rw [hactive] at htotal
    obtain rfl : total = s.host.guards.active.length -
        (s.host.guards.active.takeWhile (·.id ∉ chosen)).length := by omega
    have hlog := log_run s (drops order)
    exact ⟨hlegal, hactive, htold, hlog, fun l hr hl => htold.releasedSince hlog hr hl⟩

/-- Of five guards, two were released together, and one of those is still held. -/
def withStale : List Op :=
  [.load .empty, .load .empty, .load .empty, .drop 1, .load .empty, .load .empty]

/-- Three guards are dropped, one of which is not active. In one order the drops release one guard
each, in the other they release both at once. -/
theorem drops_commute_of_withStale :
    let s := (fresh .empty collecting).run withStale
    let chosen : Finset Nat := [2, 3, 4].toFinset
    (∀ d ∈ chosen, d ∈ s.held.map (·.id)) ∧
    s.host.guards.active.map (·.id) = [0, 3, 4] ∧
    ∃ kept total, kept.map (·.id) = [0] ∧ total = 2 ∧
      (s.run (drops [4, 3, 2])).host.guards.active = kept ∧
      (s.run (drops [2, 3, 4])).host.guards.active = kept ∧
      TellReleased (s.events (drops [4, 3, 2])) total ∧
      TellReleased (s.events (drops [2, 3, 4])) total ∧
      ReleasedSince s.host.log (s.run (drops [4, 3, 2])) total ∧
      ReleasedSince s.host.log (s.run (drops [2, 3, 4])) total := by
  intro s chosen
  have hchosen : ∀ d ∈ chosen, d ∈ s.held.map (·.id) := by decide
  obtain ⟨kept, total, -, -, hlength, horders⟩ := drops_commute hchosen
  obtain ⟨-, hdown, htold, -, hsince⟩ := horders [4, 3, 2] (by decide) (by decide)
  obtain ⟨-, hup, htold', -, hsince'⟩ := horders [2, 3, 4] (by decide) (by decide)
  have hr : s.host.log.receiver = some (.collector none .debug none) := rfl
  have hl := Listener.collector_reliable none .debug
  have hkept : kept.map (·.id) = [0] := by
    rw [← hdown]
    decide
  have htotal : total = 2 := by
    have hlen := congrArg List.length hkept
    rw [List.length_map] at hlen
    have hactive : s.host.guards.active.length = 3 := by decide
    rw [hactive, hlen] at hlength
    exact Nat.add_left_cancel hlength
  exact ⟨hchosen, by decide, kept, total, hkept, htotal, hdown, hup, htold, htold',
    hsince _ hr hl, hsince' _ hr hl⟩

end Thread

end HighlightCheck
