import HighlightCheck.Log

/-!
# Emission of records

A record goes to the listener that is set, unless the slot is broken: to the `receiver` of the slot.
A listener is `Reliable` if it fails on no record.

* `deliveries_emit`: a record is delivered once, to the receiver, also if that fails.
* `emit_of_reliable`: a reliable receiver does not end the operation that emits.
-/

namespace HighlightCheck

/-- A listener that fails on no record, whatever was delivered before. -/
def Listener.Reliable (l : Listener) : Prop :=
  ∀ earlier r text, l.answer earlier r ≠ .failed text

theorem Listener.collector_reliable (tag : Option String) (least : Level) :
    (Listener.collector tag least none).Reliable := by
  intro earlier r text h
  simp only [Listener.collector, Option.any_none, Bool.false_eq_true, if_false] at h
  split at h <;> cases h

namespace LogSlot

/-- The listener that records go to. -/
def receiver (s : LogSlot) : Option Listener :=
  if s.broken then none else s.listener

/-- Whether no record that is emitted makes a listener fail. -/
def Reliable (s : LogSlot) : Prop :=
  ∀ l, s.receiver = some l → l.Reliable

theorem emit_of_no_receiver {s : LogSlot} (h : s.receiver = none) (r : LogRecord) :
    s.emit r = (.ok (), s) := by
  unfold receiver at h
  split at h
  · rename_i hb
    exact emit_of_broken hb r
  · exact emit_of_none h r

theorem receiver_eq_some_iff {s : LogSlot} {l : Listener} :
    s.receiver = some l ↔ s.broken = false ∧ s.listener = some l := by
  unfold receiver
  cases s.broken <;> simp

/-- A slot whose listener is reliable is reliable, broken or not. -/
theorem reliable_of_listener {s : LogSlot} (h : ∀ l, s.listener = some l → l.Reliable) :
    s.Reliable :=
  fun l hl => h l (receiver_eq_some_iff.mp hl).2

/-- The record of a delivery, its receiver, and what that answered. -/
def delivery (s : LogSlot) (r : LogRecord) (l : Listener) : Delivery :=
  ⟨l, r, l.answer s.records r⟩

/-- A record is delivered to the receiver and to nobody else, and once. -/
theorem deliveries_emit (s : LogSlot) (r : LogRecord) :
    (s.emit r).2.deliveries = s.deliveries ++ (s.receiver.map (s.delivery r)).toList := by
  cases hs : s.receiver with
  | none => simp [emit_of_no_receiver hs]
  | some l =>
    obtain ⟨hb, hl⟩ := receiver_eq_some_iff.mp hs
    by_cases ha : ∃ text, l.answer s.records r = .failed text
    · obtain ⟨text, ha⟩ := ha
      rw [emit_of_failed hb hl ha]
      rfl
    · rw [emit_of_taken hb hl fun text h => ha ⟨text, h⟩]
      rfl

theorem emit_of_reliable {s : LogSlot} (h : s.Reliable) (r : LogRecord) :
    (s.emit r).1 = .ok () := by
  cases hs : s.receiver with
  | none => rw [emit_of_no_receiver hs]
  | some l =>
    obtain ⟨hb, hl⟩ := receiver_eq_some_iff.mp hs
    rw [emit_of_taken hb hl (h l hs s.records r)]

end LogSlot

end HighlightCheck
