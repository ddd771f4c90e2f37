import HighlightCheck.Fault

/-!
# Log records and their listener

Operations emit records. A listener may be set to receive them; at most one is set at a time, and
it is set for every thread. A listener that fails while it receives a record ends the operation
that emitted it, and breaks the slot it sits in: from then on no listener receives anything, though
listeners can still be set and cleared.

* `emit_of_broken`, `emit_of_none`: with a broken slot or without a listener a record goes nowhere.
* `emit_of_taken`, `emit_of_failed`: a record that is delivered, and what a failure does.
-/

namespace HighlightCheck

/-- How much a record matters, least first. -/
inductive Level where
  | debug
  | info
  | warn
  | error
  deriving DecidableEq, Repr

namespace Level

def name : Level → String
  | debug => "Debug"
  | info => "Info"
  | warn => "Warn"
  | error => "Error"

/-- The place of the level, counted from the least one. -/
def rank : Level → Nat
  | debug => 0
  | info => 1
  | warn => 2
  | error => 3

instance : Ord Level where
  compare a b := compare a.rank b.rank

end Level

/-- What an operation says of its work. -/
structure LogRecord where
  level : Level
  message : String
  deriving DecidableEq, Repr

/-- What a listener does with a record. -/
inductive Answer where
  /-- The record is not wanted. -/
  | ignored
  /-- The record is put on file. -/
  | kept
  /-- The listener fails, with this text. -/
  | failed (text : String)
  deriving DecidableEq, Repr

/-- A receiver of records. What it does with one may hang on the records delivered before. -/
structure Listener where
  /-- The mark that it puts on the records it keeps. -/
  tag : Option String
  answer : (earlier : List LogRecord) → LogRecord → Answer

/-- A record, the listener that it was delivered to, and what that did with it. -/
structure Delivery where
  listener : Listener
  record : LogRecord
  answer : Answer

/-- A record that a listener kept, with the listener's tag. -/
structure KeptRecord where
  tag : Option String
  record : LogRecord
  deriving DecidableEq, Repr

/-- What was kept of a delivery. -/
def Delivery.kept? (d : Delivery) : Option KeptRecord :=
  if d.answer = .kept then some ⟨d.listener.tag, d.record⟩ else none

/-- The slot that holds the listener. -/
structure LogSlot where
  listener : Option Listener
  /-- Whether a listener has failed. -/
  broken : Bool
  /-- Every delivery so far, oldest first. -/
  deliveries : List Delivery

namespace LogSlot

/-- A slot that nothing has happened to. -/
def empty : LogSlot :=
  ⟨none, false, []⟩

/-- Sets the listener, in place of the one set before. -/
def set (l : Listener) (s : LogSlot) : LogSlot :=
  { s with listener := some l }

/-- Leaves no listener set. -/
def clear (s : LogSlot) : LogSlot :=
  { s with listener := none }

/-- The records delivered so far. -/
def records (s : LogSlot) : List LogRecord :=
  s.deliveries.map (·.record)

/-- Delivers `r` to `l`. -/
def deliver (l : Listener) (r : LogRecord) (s : LogSlot) : LogSlot :=
  { s with deliveries := s.deliveries ++ [⟨l, r, l.answer s.records r⟩] }

/-- Emits `r`: delivers it to the listener that is set, unless the slot is broken. -/
def emit (r : LogRecord) (s : LogSlot) : Except Fault Unit × LogSlot :=
  match s.broken, s.listener with
  | false, some l =>
    match l.answer s.records r with
    | .failed text => (.error (.listener text), { s.deliver l r with broken := true })
    | _ => (.ok (), s.deliver l r)
  | _, _ => (.ok (), s)

theorem emit_of_broken {s : LogSlot} (h : s.broken = true) (r : LogRecord) :
    s.emit r = (.ok (), s) := by
  simp [emit, h]

theorem emit_of_none {s : LogSlot} (h : s.listener = none) (r : LogRecord) :
    s.emit r = (.ok (), s) := by
  unfold emit; rw [h]; cases s.broken <;> rfl

theorem emit_of_taken {s : LogSlot} {l : Listener} {r : LogRecord} (hb : s.broken = false)
    (hl : s.listener = some l) (ha : ∀ text, l.answer s.records r ≠ .failed text) :
    s.emit r = (.ok (), s.deliver l r) := by
  simp only [emit, hb, hl]

theorem emit_of_failed {s : LogSlot} {l : Listener} {r : LogRecord} {text : String}
    (hb : s.broken = false) (hl : s.listener = some l)
    (ha : l.answer s.records r = .failed text) :
    s.emit r = (.error (.listener text), { s.deliver l r with broken := true }) := by
  simp only [emit, hb, hl, ha]

end LogSlot

namespace Listener

/-- A listener that ignores what is below `least`, fails on a message that holds `failOn`, and
keeps everything else. -/
def collector (tag : Option String) (least : Level) (failOn : Option String) : Listener where
  tag := tag
  answer _ r :=
    if r.level.rank < least.rank then .ignored
    else if failOn.any (r.message.contains ·) then .failed ("log callback failed: " ++ r.message)
    else .kept

end Listener

end HighlightCheck
