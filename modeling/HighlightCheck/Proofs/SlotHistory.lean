import HighlightCheck.Proofs.Emission
import Mathlib.Data.List.Induction

/-!
# Histories of the log slot

What is done to a slot, one event after the other: listeners are set and cleared, and records are
emitted. A listener is the one set last if nothing was set or cleared after it (`SetLast`), whoever
set it and whatever failed in between.

* `listener_replay_iff`: the slot holds the listener set last.
* `broken_replay_iff`: the slot is broken exactly if a delivery has failed.
* `receiver_replay_iff`: so a record goes to the listener set last until the first failure, and to
  nobody after that.
* `delivered_replay_emit_iff`: when the listener set last receives a record.
-/

namespace HighlightCheck

/-- The listener failed on the record. -/
def Delivery.Failed (d : Delivery) : Prop :=
  ∃ text, d.answer = .failed text

namespace LogSlot

/-- What can be done to a slot. -/
inductive Event where
  | set (l : Listener)
  | clear
  | emit (r : LogRecord)

/-- The slot after an event. A listener that fails ends the operation that emits, not the
history. -/
def react (s : LogSlot) : Event → LogSlot
  | .set l => s.set l
  | .clear => s.clear
  | .emit r => (s.emit r).2

/-- The slot after events. -/
def replay (s : LogSlot) (events : List Event) : LogSlot :=
  events.foldl react s

/-- `l` was set by one of the events, and nothing was set or cleared after that. -/
def SetLast (events : List Event) (l : Listener) : Prop :=
  ∃ first rest, events = first ++ .set l :: rest ∧ ∀ e ∈ rest, ∃ r, e = .emit r

variable {s : LogSlot} {events : List Event} {k l : Listener} {r : LogRecord}

@[simp] theorem replay_nil (s : LogSlot) : s.replay [] = s := rfl

theorem replay_append (s : LogSlot) (first rest : List Event) :
    s.replay (first ++ rest) = (s.replay first).replay rest :=
  List.foldl_append

@[simp] theorem replay_concat (s : LogSlot) (events : List Event) (e : Event) :
    s.replay (events ++ [e]) = (s.replay events).react e := by
  rw [replay_append]
  rfl

/-! ## The listener set last -/

theorem not_setLast_nil (l : Listener) : ¬ SetLast [] l := by
  rintro ⟨first, rest, h, -⟩
  simp at h

/-- The last event sets `l`, or the last event is an emission and `l` was set last before it. -/
theorem setLast_concat_iff {e : Event} :
    SetLast (events ++ [e]) l ↔ e = .set l ∨ (∃ r, e = .emit r) ∧ SetLast events l := by
  constructor
  · rintro ⟨first, rest, h, hrest⟩
    rcases List.eq_nil_or_concat rest with rfl | ⟨init, last, rfl⟩
    · obtain ⟨-, he⟩ := List.append_inj' h rfl
      simp only [List.cons.injEq, and_true] at he
      exact .inl he
    · rw [List.concat_eq_append, ← List.cons_append, ← List.append_assoc] at h
      rw [List.concat_eq_append] at hrest
      obtain ⟨rfl, he⟩ := List.append_inj' h rfl
      simp only [List.cons.injEq, and_true] at he
      subst he
      exact .inr ⟨hrest e (by simp), first, init, rfl,
        fun e he => hrest e (List.mem_append_left _ he)⟩
  · rintro (rfl | ⟨hemit, first, rest, rfl, hrest⟩)
    · exact ⟨events, [], rfl, fun e he => absurd he List.not_mem_nil⟩
    · refine ⟨first, rest ++ [e], by simp, fun e' he' => ?_⟩
      rcases List.mem_append.mp he' with he' | he'
      · exact hrest e' he'
      · rwa [List.mem_singleton.mp he']

/-! ## What an emission does to the slot -/

@[simp] theorem listener_emit (s : LogSlot) (r : LogRecord) :
    (s.emit r).2.listener = s.listener := by
  unfold emit
  split
  · split <;> rfl
  · rfl

/-- The slot breaks when a listener fails on a record. -/
theorem broken_emit_iff :
    (s.emit r).2.broken = true ↔
      s.broken = true ∨ ∃ l, s.receiver = some l ∧ (s.delivery r l).Failed := by
  cases hs : s.receiver with
  | none => simp [emit_of_no_receiver hs]
  | some l =>
    obtain ⟨hb, hl⟩ := receiver_eq_some_iff.mp hs
    have hfailed : (s.delivery r l).Failed ↔ ∃ text, l.answer s.records r = .failed text := Iff.rfl
    simp only [hb, Option.some.injEq, exists_eq_left', hfailed, Bool.false_eq_true, false_or]
    by_cases ha : ∃ text, l.answer s.records r = .failed text
    · have hha := ha
      obtain ⟨text, ha⟩ := ha
      rw [emit_of_failed hb hl ha]
      exact iff_of_true rfl hha
    · rw [emit_of_taken hb hl fun text h => ha ⟨text, h⟩]
      refine iff_of_false ?_ ha
      show ¬ s.broken = true
      simp [hb]

/-! ## Slots with a history -/

/-- **One event.** The listener that is set goes on to be the one set last. -/
theorem listener_react_iff (h : ∀ l, s.listener = some l ↔ SetLast events l) (e : Event) :
    (s.react e).listener = some l ↔ SetLast (events ++ [e]) l := by
  rw [setLast_concat_iff]
  cases e with
  | set k => simp [react, set]
  | clear => simp [react, clear]
  | emit r => simp [react, h]

theorem listener_replay_iff : (empty.replay events).listener = some l ↔ SetLast events l := by
  induction events using List.reverseRecOn generalizing l with
  | nil => exact iff_of_false nofun (not_setLast_nil l)
  | append_singleton events e ih =>
    rw [replay_concat]
    exact listener_react_iff (fun _ => ih) e

/-- **One event.** A slot that is broken exactly if a delivery has failed stays so. -/
theorem broken_react_iff (h : s.broken = true ↔ ∃ d ∈ s.deliveries, d.Failed) (e : Event) :
    (s.react e).broken = true ↔ ∃ d ∈ (s.react e).deliveries, d.Failed := by
  cases e with
  | set l => exact h
  | clear => exact h
  | emit r =>
    show (s.emit r).2.broken = true ↔ ∃ d ∈ (s.emit r).2.deliveries, d.Failed
    rw [broken_emit_iff, deliveries_emit, h]
    cases s.receiver with
    | none => simp
    | some l => simp [or_and_right, exists_or]

theorem broken_replay_iff :
    (empty.replay events).broken = true ↔ ∃ d ∈ (empty.replay events).deliveries, d.Failed := by
  induction events using List.reverseRecOn with
  | nil => exact iff_of_false nofun nofun
  | append_singleton events e ih =>
    rw [replay_concat]
    exact broken_react_iff ih e

/-- Records go to the listener set last, and only until a delivery fails. -/
theorem receiver_replay_iff :
    (empty.replay events).receiver = some l ↔
      SetLast events l ∧ ∀ d ∈ (empty.replay events).deliveries, ¬ d.Failed := by
  rw [receiver_eq_some_iff, listener_replay_iff, ← Bool.not_eq_true, broken_replay_iff, and_comm]
  simp

/-- Nothing takes back a delivery. -/
theorem deliveries_prefix_replay (s : LogSlot) (events : List Event) :
    s.deliveries <+: (s.replay events).deliveries := by
  induction events generalizing s with
  | nil => exact List.prefix_rfl
  | cons e events ih =>
    refine List.IsPrefix.trans ?_ (ih (s.react e))
    cases e with
    | emit r =>
      show s.deliveries <+: (s.emit r).2.deliveries
      rw [deliveries_emit]
      exact List.prefix_append _ _
    | _ => exact List.prefix_rfl

/-- The deliveries of one more emission. -/
theorem deliveries_replay_emit (events : List Event) (r : LogRecord) :
    (empty.replay (events ++ [.emit r])).deliveries =
      (empty.replay events).deliveries ++
        ((empty.replay events).receiver.map ((empty.replay events).delivery r)).toList := by
  rw [replay_concat]
  exact deliveries_emit _ r

theorem deliveries_replay_emit_of_no_receiver (r : LogRecord)
    (h : ∀ l, (empty.replay events).receiver ≠ some l) :
    (empty.replay (events ++ [.emit r])).deliveries = (empty.replay events).deliveries := by
  rw [deliveries_replay_emit, Option.eq_none_iff_forall_ne_some.mpr h]
  exact List.append_nil _

/-- The listener set last receives a record exactly as long as no delivery has failed. -/
theorem delivered_replay_emit_iff (r : LogRecord) (hl : SetLast events l) :
    (empty.replay (events ++ [.emit r])).deliveries =
        (empty.replay events).deliveries ++ [(empty.replay events).delivery r l] ↔
      ∀ d ∈ (empty.replay events).deliveries, ¬ d.Failed := by
  constructor
  · intro heq
    rw [deliveries_replay_emit] at heq
    -- A delivery has a receiver, and there is none once a delivery has failed.
    cases hs : (empty.replay events).receiver with
    | none => simp [hs] at heq
    | some k => exact (receiver_replay_iff.mp hs).2
  · intro hnone
    rw [deliveries_replay_emit, receiver_replay_iff.mpr ⟨hl, hnone⟩]
    rfl

end LogSlot

end HighlightCheck
