import HighlightCheck.Proofs.SlotHistory
import HighlightCheck.Proofs.Thread

/-!
# Who receives the records of a thread

Every operation of a thread is a sequence of events for the log slot: the records it emits, up to
the one that ends it, or a listener that is set or cleared. So the slot after a run is the slot
after the events of the run, and each record goes where the history of the slot sends it.

* `Session.Request.snd_run`: a request does nothing but emit its records.
* `log_step`, `log_run`: the slot after an operation and after a run, by their events.
* `delivered_iff`: which records are delivered, and to whom.
* `undelivered_after_failure`: a record that the listener set last does not receive.
-/

namespace HighlightCheck

namespace LogSlot

/-- The slot after records are emitted, one after the other. -/
def emitAll (s : LogSlot) (records : List LogRecord) : LogSlot :=
  s.replay (records.map .emit)

@[simp] theorem emitAll_nil (s : LogSlot) : s.emitAll [] = s := rfl

@[simp] theorem emitAll_cons (s : LogSlot) (r : LogRecord) (records : List LogRecord) :
    s.emitAll (r :: records) = (s.emit r).2.emitAll records := rfl

end LogSlot

namespace Action

variable {α β : Type}

/-- An action that leaves the host as it is. -/
def Silent (x : Action α) : Prop :=
  ∀ h, (x h).2 = h

theorem silent_pure (a : α) : Silent (pure a : Action α) := fun _ => rfl

theorem silent_get : Silent (get : Action Host) := fun _ => rfl

theorem silent_throw (e : Fault) : Silent (throw e : Action α) := fun _ => rfl

theorem silent_ofExcept (r : Except Fault α) : Silent (ofExcept r) := fun _ => rfl

/-- What silent actions follow changes nothing more. -/
theorem snd_bind_of_silent {x : Action α} {f : α → Action β} (hf : ∀ a, Silent (f a)) (h : Host) :
    ((x >>= f) h).2 = (x h).2 := by
  rw [bind_apply]
  rcases x h with ⟨e | a, h'⟩
  · rfl
  · exact hf a h'

theorem Silent.bind {x : Action α} {f : α → Action β} (hx : Silent x) (hf : ∀ a, Silent (f a)) :
    Silent (x >>= f) :=
  fun h => (snd_bind_of_silent hf h).trans (hx h)

end Action

open HighlightCheck.Action

/-! ## The records of checks -/

namespace Tokenizer

/-- The record of a check: there is none if the tokenizer gives no tokens. -/
def records (t : Tokenizer) (setting : Setting) (code : String) (expected : List Span) :
    List LogRecord :=
  match t.tokenize setting code with
  | .error _ => []
  | .ok tokens => [t.verdict code expected tokens]

/-- The records of a table of checks, up to the first check that ends in a fault. -/
def recordsOfAll (t : Tokenizer) (setting : Setting) (slot : LogSlot) : List Case → List LogRecord
  | [] => []
  | c :: rest =>
    match t.tokenize setting c.code with
    | .error _ => []
    | .ok tokens =>
      let record := t.verdict c.code c.expected tokens
      match slot.emit record with
      | (.error _, _) => [record]
      | (.ok _, slot) => record :: t.recordsOfAll setting slot rest

theorem snd_check (t : Tokenizer) (code : String) (expected : List Span) (h : Host) :
    (t.check code expected h).2 =
      { h with log := h.log.emitAll (t.records h.setting code expected) } := by
  unfold records
  cases ht : t.tokenize h.setting code with
  | error f => rw [check_apply_of_error ht]; rfl
  | ok tokens => rw [check_apply ht]; rfl

theorem snd_attempt (t : Tokenizer) (code : String) (expected : List Span) (h : Host) :
    (t.attempt code expected h).2 = (t.check code expected h).2 :=
  snd_bind_of_silent (fun _ => silent_pure _) h

theorem snd_assert (t : Tokenizer) (code : String) (expected : List Span) (h : Host) :
    (t.assert code expected h).2 = (t.check code expected h).2 := by
  refine snd_bind_of_silent (fun outcome => ?_) h
  split
  · exact silent_pure _
  · exact (silent_ofExcept _).bind fun _ => silent_throw _

/-- The first check of a table, and the rest of it on the host that the first one leaves. -/
theorem snd_checkAll_cons (t : Tokenizer) (c : Case) (rest : List Case) (h : Host) :
    (t.checkAll (c :: rest) h).2 =
      match t.check c.code c.expected h with
      | (.error _, h') => h'
      | (.ok _, h') => (t.checkAll rest h').2 := by
  unfold checkAll
  rw [List.filterMapM_cons, bind_apply, bind_apply]
  rcases t.check c.code c.expected h with ⟨e | outcome, h'⟩
  · rfl
  · cases outcome with
    | ok _ => rfl
    | error f => exact snd_bind_of_silent (fun _ => silent_pure _) h'

theorem snd_checkAll (t : Tokenizer) (table : List Case) (h : Host) :
    (t.checkAll table h).2 =
      { h with log := h.log.emitAll (t.recordsOfAll h.setting h.log table) } := by
  induction table generalizing h with
  | nil => rfl
  | cons c rest ih =>
    rw [snd_checkAll_cons]
    unfold recordsOfAll
    cases ht : t.tokenize h.setting c.code with
    | error f => rw [check_apply_of_error ht]; rfl
    | ok tokens =>
      rw [check_apply ht]
      rcases he : h.log.emit (t.verdict c.code c.expected tokens) with ⟨f | _, slot⟩
      · simp [Except.map, he]
      · simp only [Except.map, ih, LogSlot.emitAll_cons, he]
        rfl

end Tokenizer

namespace Session.Request

open Tokenizer

/-- The records that a request emits. -/
def records (h : Host) : Request → List LogRecord
  | stream _ _ => []
  | spans _ _ => []
  | check t code expected => t.records h.setting code expected
  | attempt t code expected => t.records h.setting code expected
  | assert t code expected => t.records h.setting code expected
  | cases t table => t.recordsOfAll h.setting h.log table

theorem snd_run (r : Request) (h : Host) :
    (r.run h).2 = { h with log := h.log.emitAll (r.records h) } := by
  cases r with
  | stream t code =>
    exact (silent_get.bind fun _ => (silent_ofExcept _).bind fun _ =>
      (silent_ofExcept _).bind fun _ => silent_pure _) h
  | spans t code =>
    exact (silent_get.bind fun _ => (silent_ofExcept _).bind fun _ => silent_pure _) h
  | check t code expected =>
    refine (snd_bind_of_silent (fun outcome => ?_) h).trans (snd_check t code expected h)
    split <;> exact silent_pure _
  | attempt t code expected =>
    refine (snd_bind_of_silent (fun outcome => ?_) h).trans
      ((snd_attempt t code expected h).trans (snd_check t code expected h))
    split <;> exact silent_pure _
  | assert t code expected =>
    exact (snd_bind_of_silent (fun _ => silent_pure _) h).trans
      ((snd_assert t code expected h).trans (snd_check t code expected h))
  | cases t table =>
    exact (snd_bind_of_silent (fun _ => silent_pure _) h).trans (snd_checkAll t table h)

end Session.Request

/-! ## The events of a thread -/

namespace Thread

open LogSlot (Event SetLast)

/-- What an operation does to the log slot. -/
def eventsOf (s : Thread) : Op → List Event
  | .load cache => [.emit (s.host.loadRecord cache)]
  | .drop id =>
    match s.find? id with
    | none => []
    | some g => if s.host.guards.released g = 0 then [] else [.emit (s.host.releaseRecord g)]
  | .forget _ => []
  | .request r => (r.records s.host).map .emit
  | .emit record => [.emit record]
  | .setListener l => [.set l]
  | .clearListener => [.clear]

/-- What operations do to the log slot. -/
def events (s : Thread) : List Op → List Event
  | [] => []
  | op :: rest => s.eventsOf op ++ (s.step op).2.events rest

theorem eventsOf_drop {s : Thread} {id : Nat} {g : Guard} (hg : s.find? id = some g) :
    s.eventsOf (.drop id) =
      if s.host.guards.released g = 0 then [] else [.emit (s.host.releaseRecord g)] := by
  simp only [eventsOf, hg]

theorem host_step_drop {s : Thread} {id : Nat} {g : Guard} (hg : s.find? id = some g) :
    (s.step (.drop id)).2.host = (Action.drop g s.host).2 := by
  simp only [step, hg]
  rfl

/-- **One operation.** It does to the slot what its events do, however it ends. -/
theorem log_step (s : Thread) (op : Op) :
    (s.step op).2.host.log = s.host.log.replay (s.eventsOf op) := by
  cases op with
  | load cache =>
    rw [step_load]
    rfl
  | drop id =>
    cases hg : s.find? id with
    | none => simp [step, eventsOf, hg]
    | some g =>
      rw [host_step_drop hg, eventsOf_drop hg, Action.drop_apply]
      split <;> rfl
  | request r =>
    show (r.run s.host).2.log = _
    rw [r.snd_run]
    rfl
  | _ => rfl

theorem log_run (s : Thread) (ops : List Op) :
    (s.run ops).host.log = s.host.log.replay (s.events ops) := by
  induction ops generalizing s with
  | nil => rfl
  | cons op rest ih =>
    show ((s.step op).2.run rest).host.log = _
    rw [ih, log_step, events, LogSlot.replay_append]

/-- **Who receives a record.** Let others do to the slot what they will, and then a thread its
operations. Each record that was emitted is delivered once, as it is, to the listener set last before
it, exactly as long as no delivery before it has failed. After a failure records go to nobody,
whatever was set since, and without a listener they go to nobody in any case. -/
theorem delivered_iff (files : FileTree) (earlier : List Event) (ops : List Op) :
    let start := fresh files (LogSlot.empty.replay earlier)
    let history := earlier ++ start.events ops
    (start.run ops).host.log = LogSlot.empty.replay history ∧
    ∀ before r, before ++ [.emit r] <+: history →
      let s := LogSlot.empty.replay before
      let s' := LogSlot.empty.replay (before ++ [.emit r])
      (∀ l, SetLast before l →
        (s'.deliveries = s.deliveries ++ [s.delivery r l] ↔ ∀ d ∈ s.deliveries, ¬ d.Failed)) ∧
      ((∃ d ∈ s.deliveries, d.Failed) → s'.deliveries = s.deliveries) ∧
      ((∀ l, ¬ SetLast before l) → s'.deliveries = s.deliveries) := by
  intro start history
  refine ⟨?_, fun before r _ => ?_⟩
  · rw [log_run, LogSlot.replay_append]
    rfl
  · refine ⟨fun l hl => LogSlot.delivered_replay_emit_iff r hl, ?_, fun hunset => ?_⟩
    · rintro ⟨d, hd, hfailed⟩
      exact LogSlot.deliveries_replay_emit_of_no_receiver r fun l hl =>
        (LogSlot.receiver_replay_iff.mp hl).2 d hd hfailed
    · exact LogSlot.deliveries_replay_emit_of_no_receiver r fun l hl =>
        hunset l (LogSlot.receiver_replay_iff.mp hl).1

/-- A listener fails on the first record, and another one is set before the second. -/
def refilled : List Op :=
  [.setListener ⟨none, fun _ _ => .failed "no"⟩, .emit ⟨.info, "first"⟩,
    .setListener ⟨none, fun _ _ => .kept⟩, .emit ⟨.info, "second"⟩]

/-- **A lost record.** After a failure a new listener is set, and the next record is emitted, but
nobody receives it. -/
theorem undelivered_after_failure :
    let start := fresh .empty .empty
    let keeper : Listener := ⟨none, fun _ _ => .kept⟩
    (start.events refilled)[3]? = some (.emit ⟨.info, "second"⟩) ∧
    SetLast ((start.events refilled).take 3) keeper ∧
    ((start.run (refilled.take 3)).host.log.deliveries.map (·.record.message)) = ["first"] ∧
    (start.run refilled).host.log.deliveries =
      (start.run (refilled.take 3)).host.log.deliveries := by
  intro start keeper
  refine ⟨rfl, ?_, rfl, rfl⟩
  exact ⟨[.set ⟨none, fun _ _ => .failed "no"⟩, .emit ⟨.info, "first"⟩], [], rfl, nofun⟩

end Thread

end HighlightCheck
