import HighlightCheck.Proofs.Delivery
import HighlightCheck.Proofs.LogFree
import Mathlib.Logic.Function.Basic

/-!
# Processes

The threads of a process see the same files and share the log slot, and each has guards of its own.
What they do is told by a schedule: who acts next, and how. An act is done in one piece.

* `Thread.Act`, `Thread.outcome`: what can be done on a thread, what it gives and what it emits.
* `Thread.Alike`: threads that differ in their logs at most. They go on alike (`Alike.outcome_eq`,
  `Alike.after`).
* `Process.step`, `Process.run`: one act, and those of a schedule.
* `Process.thread_step_self`, `Process.thread_step_of_ne`: what a step is for the thread that acts,
  and for the others.
-/

namespace HighlightCheck

namespace LogSlot.Event

/-- The record that is emitted. -/
def record? : Event → Option LogRecord
  | emit r => some r
  | _ => none

end LogSlot.Event

theorem LogSlot.Reliable.emitAll {s : LogSlot} (h : s.Reliable) (records : List LogRecord) :
    (s.emitAll records).Reliable := by
  induction records generalizing s with
  | nil => exact h
  | cons r records ih => exact ih (h.emit r)

/-! ## Records on logs that are alike -/

namespace Tokenizer

variable {slot : LogSlot}

theorem recordsOfAll_cons (t : Tokenizer) (setting : Setting) (h : slot.Reliable) (c : Case)
    (rest : List Case) :
    t.recordsOfAll setting slot (c :: rest) =
      match t.tokenize setting c.code with
      | .error _ => []
      | .ok tokens =>
        let record := t.verdict c.code c.expected tokens
        record :: t.recordsOfAll setting (slot.emit record).2 rest := by
  rw [recordsOfAll]
  cases t.tokenize setting c.code with
  | error f => rfl
  | ok tokens =>
    have hemit := LogSlot.emit_of_reliable h (t.verdict c.code c.expected tokens)
    rcases hslot : slot.emit (t.verdict c.code c.expected tokens) with ⟨result, slot'⟩
    rw [hslot] at hemit
    subst hemit
    simp only [hslot]

/-- No check of a table ends in a fault of a listener, so all of them emit their records. -/
theorem recordsOfAll_congr (t : Tokenizer) (setting : Setting) {slot slot' : LogSlot}
    (h : slot.Reliable) (h' : slot'.Reliable) (table : List Case) :
    t.recordsOfAll setting slot' table = t.recordsOfAll setting slot table := by
  induction table generalizing slot slot' with
  | nil => rfl
  | cons c rest ih =>
    rw [t.recordsOfAll_cons setting h, t.recordsOfAll_cons setting h']
    cases t.tokenize setting c.code with
    | error f => rfl
    | ok tokens => exact congrArg _ (ih (h.emit _) (h'.emit _))

end Tokenizer

theorem Session.Request.records_eq {h h' : Host} (ha : h.Alike h') (r : Request) :
    r.records h' = r.records h := by
  cases r with
  | cases t table =>
    simp only [records, ha.setting]
    exact t.recordsOfAll_congr h.setting ha.reliable ha.reliable' table
  | _ => simp only [records, ha.setting]

namespace Thread

/-! ## Acts -/

/-- What can be done on a thread. -/
inductive Act where
  | op (op : Op)
  /-- Asks for the cache that tokenizers see. -/
  | visible
  /-- Asks whether a guard is active. -/
  | hasActive

/-- Whether an act sets or clears a listener. -/
def Act.setsListener : Act → Bool
  | op (.setListener _) => true
  | op .clearListener => true
  | _ => false

/-- What an act gives. -/
inductive Result where
  | done
  | guard (g : Guard)
  | reply (r : Session.Reply)
  | cache (c : Option CommandCache)
  | flag (value : Bool)

/-- What an operation gives. -/
def resultOf (s : Thread) : Op → Except Fault Result
  | .load cache => (Action.load cache s.host).1.map .guard
  | .request r => (r.run s.host).1.map .reply
  | op => (s.step op).1.map fun _ => .done

/-- What an act gives. -/
def result (s : Thread) : Act → Except Fault Result
  | .op op => s.resultOf op
  | .visible => .ok (.cache s.host.guards.visible)
  | .hasActive => .ok (.flag s.host.guards.hasActive)

/-- The records that an act emits. -/
def records (s : Thread) : Act → List LogRecord
  | .op op => (s.eventsOf op).filterMap LogSlot.Event.record?
  | _ => []

/-- What there is to see of an act: what it gives and what it emits. -/
structure Outcome where
  result : Except Fault Result
  records : List LogRecord

def outcome (s : Thread) (a : Act) : Outcome :=
  ⟨s.result a, s.records a⟩

/-- The thread after an act. -/
def after (s : Thread) : Act → Thread
  | .op op => (s.step op).2
  | _ => s

/-- The thread after acts, one after the other. -/
def afterAll (s : Thread) (acts : List Act) : Thread :=
  acts.foldl after s

/-- What there is to see of acts, one after the other. -/
def outcomes (s : Thread) : List Act → List Outcome
  | [] => []
  | a :: rest => s.outcome a :: (s.after a).outcomes rest

variable {s s' : Thread} {a : Act}

theorem map_map_done (r : Except Fault Unit) :
    (r.map fun _ => Result.done).map (fun _ => ()) = r := by
  cases r <;> rfl

/-- An operation gives something exactly if its step does not end in a fault. -/
theorem map_resultOf (s : Thread) (op : Op) :
    (s.resultOf op).map (fun _ => ()) = (s.step op).1 := by
  cases op with
  | load cache =>
    rw [step_load, resultOf, Action.load_apply]
    cases (s.host.log.emit (s.host.loadRecord cache)).1 <;> rfl
  | request r =>
    show ((r.run s.host).1.map _).map _ = (r.run s.host).1.map _
    cases (r.run s.host).1 <;> rfl
  | drop id => exact map_map_done _
  | emit record => exact map_map_done _
  | _ => rfl

theorem files_after (s : Thread) (a : Act) : (s.after a).host.files = s.host.files := by
  cases a with
  | op op =>
    show (s.step op).2.host.files = s.host.files
    cases op with
    | load cache => rw [step_load]
    | drop id =>
      cases hg : s.find? id with
      | none => simp only [step, hg]
      | some g =>
        rw [host_step_drop hg, Action.drop_apply]
        split <;> rfl
    | request r =>
      show (r.run s.host).2.files = s.host.files
      rw [r.snd_run]
    | _ => rfl
  | _ => rfl

/-- An act that sets and clears no listener does nothing to the log but emit its records. -/
theorem log_after (ha : a.setsListener = false) :
    (s.after a).host.log = s.host.log.emitAll (s.records a) := by
  cases a with
  | op op =>
    show (s.step op).2.host.log = _
    rw [log_step]
    suffices hevents : s.eventsOf op = (s.records (.op op)).map .emit by
      rw [LogSlot.emitAll, ← hevents]
    cases op with
    | drop id =>
      show _ = ((s.eventsOf (.drop id)).filterMap _).map _
      cases hg : s.find? id with
      | none => simp [eventsOf, hg]
      | some g =>
        rw [eventsOf_drop hg]
        split <;> rfl
    | request r =>
      show (r.records s.host).map _ = (((r.records s.host).map _).filterMap _).map _
      rw [List.filterMap_map]
      exact congrArg _ List.filterMap_some.symm
    | setListener l => cases ha
    | clearListener => cases ha
    | _ => rfl
  | _ => rfl

theorem reliable_after (h : s.host.log.Reliable) (ha : a.setsListener = false) :
    (s.after a).host.log.Reliable := by
  rw [log_after ha]
  exact h.emitAll _

/-! ## Threads that are alike -/

/-- Two threads that differ in their logs at most, and on neither does a record make a listener
fail. -/
structure Alike (s s' : Thread) : Prop where
  host : s.host.Alike s'.host
  held : s'.held = s.held

namespace Alike

theorem find?_eq (h : s.Alike s') (id : Nat) : s'.find? id = s.find? id := by
  unfold find?
  rw [h.held]

theorem fst_perform {α : Type} {x : Action α} (hx : x.LogFree) (h : s.Alike s') :
    (s'.perform x).1 = (s.perform x).1 :=
  congrArg (Except.map fun _ => ()) (hx h.host).1

/-- Whatever is done, it gives the same on both threads. -/
theorem result_eq (h : s.Alike s') (a : Act) : s'.result a = s.result a := by
  cases a with
  | op op =>
    cases op with
    | load cache =>
      exact congrArg (Except.map Result.guard) (Action.logFree_load cache h.host).1
    | drop id =>
      suffices hstep : (s'.step (.drop id)).1 = (s.step (.drop id)).1 from
        congrArg (Except.map fun _ => Result.done) hstep
      simp only [step, h.find?_eq]
      cases s.find? id with
      | none => rfl
      | some g => exact congrArg (Except.map fun _ => ()) (Action.logFree_drop g h.host).1
    | request r => exact congrArg (Except.map Result.reply) (r.logFree_run h.host).1
    | emit record =>
      exact congrArg (Except.map fun _ => Result.done) (h.fst_perform (Action.logFree_emit _ _))
    | _ => rfl
  | visible => simp only [result, h.host.guards]
  | hasActive => simp only [result, h.host.guards]

theorem records_eq (h : s.Alike s') (a : Act) : s'.records a = s.records a := by
  cases a with
  | op op =>
    suffices hevents : s'.eventsOf op = s.eventsOf op from
      congrArg (List.filterMap LogSlot.Event.record?) hevents
    cases op with
    | load cache => simp only [eventsOf, h.host.loadRecord]
    | drop id => simp only [eventsOf, h.find?_eq, h.host.guards, h.host.releaseRecord]
    | request r => simp only [eventsOf, r.records_eq h.host]
    | _ => rfl
  | _ => rfl

theorem outcome_eq (h : s.Alike s') (a : Act) : s'.outcome a = s.outcome a := by
  rw [outcome, h.result_eq, h.records_eq, outcome]

theorem guards_after (h : s.Alike s') (a : Act) :
    (s'.after a).host.guards = (s.after a).host.guards := by
  cases a with
  | op op =>
    cases op with
    | load cache =>
      simp only [after, guards_step_load, h.host.guards]
    | drop id =>
      simp only [after, step, h.find?_eq]
      cases s.find? id with
      | none => exact h.host.guards
      | some g => exact (Action.logFree_drop g h.host).2.guards
    | request r => exact (r.logFree_run h.host).2.guards
    | _ => exact h.host.guards
  | _ => exact h.host.guards

theorem held_after (h : s.Alike s') (a : Act) : (s'.after a).held = (s.after a).held := by
  cases a with
  | op op =>
    cases op with
    | load cache =>
      have hresult : s'.resultOf (.load cache) = s.resultOf (.load cache) :=
        h.result_eq (.op (.load cache))
      have hstep : (s'.step (.load cache)).1 = (s.step (.load cache)).1 := by
        rw [← map_resultOf, hresult, map_resultOf]
      simp only [after, held_step_load, hstep, h.held, h.host.guards]
    | drop id => simp only [after, held_step_drop, h.held]
    | forget id =>
      show s'.held.filter _ = s.held.filter _
      rw [h.held]
    | _ => exact h.held
  | _ => exact h.held

/-- Two threads that are alike go on alike, as long as they do the same and set no listener. -/
theorem after (h : s.Alike s') (ha : a.setsListener = false) : (s.after a).Alike (s'.after a) where
  host :=
    { files := by rw [files_after, files_after, h.host.files]
      guards := h.guards_after a
      reliable := reliable_after h.host.reliable ha
      reliable' := reliable_after h.host.reliable' ha }
  held := h.held_after a

end Alike

end Thread

/-! ## Processes -/

/-- What a thread has for itself. -/
structure Share where
  guards : GuardStack
  /-- The guards that were made on the thread and are held by somebody. -/
  held : List Guard

/-- The threads of a process, which go by the members of `ι`. -/
structure Process (ι : Type) where
  files : FileTree
  log : LogSlot
  share : ι → Share

namespace Process

open Thread (Act Outcome)

variable {ι : Type}

/-- A process on which no guard was made yet. -/
def fresh (files : FileTree) (log : LogSlot) : Process ι :=
  ⟨files, log, fun _ => ⟨.empty, []⟩⟩

/-- A thread of the process. -/
def thread (p : Process ι) (i : ι) : Thread :=
  ⟨⟨p.files, (p.share i).guards, p.log⟩, (p.share i).held⟩

variable [DecidableEq ι]

/-- The process after one of its threads has become `s`. -/
def put (p : Process ι) (i : ι) (s : Thread) : Process ι :=
  ⟨s.host.files, s.host.log, Function.update p.share i ⟨s.host.guards, s.held⟩⟩

/-- The process after a thread has acted. -/
def step (p : Process ι) (turn : ι × Act) : Process ι :=
  p.put turn.1 ((p.thread turn.1).after turn.2)

/-- The process after the turns of a schedule. -/
def run (p : Process ι) (schedule : List (ι × Act)) : Process ι :=
  schedule.foldl step p

/-- What there is to see of the turns of a schedule, and on which threads. -/
def outcomes (p : Process ι) : List (ι × Act) → List (ι × Outcome)
  | [] => []
  | turn :: rest => (turn.1, (p.thread turn.1).outcome turn.2) :: (p.step turn).outcomes rest

variable {p : Process ι} {i j : ι}

theorem thread_put_self (p : Process ι) (i : ι) (s : Thread) : (p.put i s).thread i = s := by
  simp [thread, put]

theorem share_put_of_ne (h : i ≠ j) (s : Thread) : (p.put j s).share i = p.share i :=
  Function.update_of_ne h _ _

/-- For the thread that acts, a step is what it would be without the others. -/
theorem thread_step_self (p : Process ι) (i : ι) (a : Act) :
    (p.step (i, a)).thread i = (p.thread i).after a :=
  thread_put_self p i _

theorem files_step (p : Process ι) (turn : ι × Act) : (p.step turn).files = p.files :=
  Thread.files_after _ _

/-- For another thread, a step changes the log at most. -/
theorem thread_step_of_ne (h : i ≠ j) (a : Act) :
    (p.step (j, a)).thread i =
      ⟨{ (p.thread i).host with log := (p.step (j, a)).log }, (p.thread i).held⟩ := by
  rw [thread, files_step, step, share_put_of_ne h]
  rfl

end Process

end HighlightCheck
