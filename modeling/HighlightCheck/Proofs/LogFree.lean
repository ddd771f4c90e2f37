import HighlightCheck.Proofs.SlotHistory
import HighlightCheck.Proofs.Action

/-!
# Actions that cannot read the log

An action emits records, but it cannot ask who listens. So as long as no listener fails, its result
and what it does to the guards are the same on every log.

* `Host.Alike`: hosts that differ in their logs at most.
* `Action.LogFree`: an action that ends alike on hosts that are alike.
* `Action.logFree_load`, `Action.logFree_drop`, `Session.Request.logFree_run`: whatever is done on a
  thread is such an action.
-/

namespace HighlightCheck

namespace LogSlot

variable {s : LogSlot} {l : Listener} {r : LogRecord}

/-- An emission sets no listener and mends no slot. -/
theorem receiver_of_receiver_emit (h : (s.emit r).2.receiver = some l) : s.receiver = some l := by
  obtain ⟨hbroken, hlistener⟩ := receiver_eq_some_iff.mp h
  rw [listener_emit] at hlistener
  rw [← Bool.not_eq_true, broken_emit_iff, not_or, Bool.not_eq_true] at hbroken
  exact receiver_eq_some_iff.mpr ⟨hbroken.1, hlistener⟩

theorem Reliable.emit (h : s.Reliable) (r : LogRecord) : (s.emit r).2.Reliable :=
  fun l hl => h l (receiver_of_receiver_emit hl)

theorem reliable_of_listener_eq_none (h : s.listener = none) : s.Reliable :=
  reliable_of_listener fun l hl => by simp [h] at hl

theorem reliable_of_broken (h : s.broken = true) : s.Reliable := by
  intro l hl
  rw [(receiver_eq_some_iff.mp hl).1] at h
  cases h

end LogSlot

/-- Two hosts that differ in their logs at most, and on neither does a record make a listener
fail. -/
structure Host.Alike (h h' : Host) : Prop where
  files : h'.files = h.files
  guards : h'.guards = h.guards
  reliable : h.log.Reliable
  reliable' : h'.log.Reliable

namespace Host.Alike

variable {h h' : Host}

theorem setting (ha : h.Alike h') : h'.setting = h.setting := by
  unfold Host.setting
  rw [ha.files, ha.guards]

theorem loadRecord (ha : h.Alike h') (cache : CommandCache) :
    h'.loadRecord cache = h.loadRecord cache := by
  unfold Host.loadRecord
  rw [ha.guards]

theorem releaseRecord (ha : h.Alike h') (g : Guard) : h'.releaseRecord g = h.releaseRecord g := by
  unfold Host.releaseRecord
  rw [ha.guards]

end Host.Alike

namespace Action

variable {α β : Type}

/-- An action whose result, and what it does to anything but the log, is the same on hosts that are
alike. -/
def LogFree (x : Action α) : Prop :=
  ∀ ⦃h h' : Host⦄, h.Alike h' → (x h').1 = (x h).1 ∧ (x h).2.Alike (x h').2

theorem logFree_emit (level : Level) (message : String) : LogFree (emit level message) := by
  intro h h' ha
  rw [emit_apply, emit_apply]
  refine ⟨?_, ha.files, ha.guards, ha.reliable.emit _, ha.reliable'.emit _⟩
  exact (LogSlot.emit_of_reliable ha.reliable' _).trans
    (LogSlot.emit_of_reliable ha.reliable _).symm

theorem LogFree.bind {x : Action α} {f : α → Action β} (hx : LogFree x)
    (hf : ∀ a, LogFree (f a)) : LogFree (x >>= f) := by
  intro h h' ha
  obtain ⟨hresult, hafter⟩ := hx ha
  rw [bind_apply, bind_apply]
  rcases hr : x h with ⟨e | a, k⟩ <;> rcases hr' : x h' with ⟨e' | a', k'⟩ <;>
    simp only [hr, hr', reduceCtorEq, Except.error.injEq, Except.ok.injEq] at hresult hafter
  · exact ⟨congrArg Except.error hresult, hafter⟩
  · rw [hresult]
    exact hf a hafter

theorem composes_logFree : Composes LogFree where
  pure _ _ _ ha := ⟨rfl, ha⟩
  bind := LogFree.bind
  read {_ f} hread hf h h' ha := by
    show (f h' h').1 = (f h h).1 ∧ (f h h).2.Alike (f h' h').2
    rw [hread h h' ha.setting]
    exact hf h ha
  emit := logFree_emit
  report _ _ _ ha := ⟨rfl, ha⟩
  unmatched _ _ _ ha := ⟨rfl, ha⟩

theorem logFree_load (cache : CommandCache) : LogFree (load cache) := by
  intro h h' ha
  rw [load_apply, load_apply, ha.loadRecord, LogSlot.emit_of_reliable ha.reliable,
    LogSlot.emit_of_reliable ha.reliable', ha.guards]
  exact ⟨rfl, ha.files, rfl, ha.reliable.emit _, ha.reliable'.emit _⟩

theorem logFree_drop (g : Guard) : LogFree (drop g) := by
  intro h h' ha
  rw [drop_apply, drop_apply, ha.releaseRecord, ha.guards, LogSlot.emit_of_reliable ha.reliable,
    LogSlot.emit_of_reliable ha.reliable']
  split
  · exact ⟨rfl, ha.files, rfl, ha.reliable, ha.reliable'⟩
  · exact ⟨rfl, ha.files, rfl, ha.reliable.emit _, ha.reliable'.emit _⟩

end Action

/-- A request cannot read the log, whatever it asks for. -/
theorem Session.Request.logFree_run (r : Request) : Action.LogFree r.run :=
  Action.composes_logFree.run r fun _ _ _ _ ha => ⟨rfl, ha⟩

end HighlightCheck
