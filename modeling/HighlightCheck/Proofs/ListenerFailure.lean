import HighlightCheck.Proofs.Process
import HighlightCheck.Tokenizer.Shell

/-!
# The failure of a listener

A listener that fails ends one operation. The slot that it sits in is broken from then on, so no
other operation of the process ends in this way, whatever listeners are set, and each one ends as it
would if nobody listened.

* `Action.Telling`: an action that ends in the fault of a listener exactly if it breaks the slot.
* `Session.Request.telling_run`: whatever is asked of a tokenizer that gives tokens is such an
  action.
* `Thread.endsInListener_iff`: one act.
* `Process.broken_mono`, `Process.broken_run_iff`: all turns.
* `Process.listener_fails_once`: a schedule from the start of the process.
-/

namespace HighlightCheck

/-- A result that is the fault of a listener. -/
def EndsInListener {α : Type} (result : Except Fault α) : Prop :=
  ∃ text, result = .error (.listener text)

section EndsInListener

variable {α β : Type}

@[simp] theorem not_endsInListener_ok (a : α) : ¬ EndsInListener (.ok a : Except Fault α) := by
  simp [EndsInListener]

@[simp] theorem endsInListener_error_iff (e : Fault) :
    EndsInListener (.error e : Except Fault α) ↔ ∃ text, e = .listener text := by
  simp [EndsInListener]

@[simp] theorem endsInListener_map_iff (f : α → β) (r : Except Fault α) :
    EndsInListener (r.map f) ↔ EndsInListener r := by
  cases r <;> simp [EndsInListener, Except.map]

theorem not_endsInListener_report (f : Mismatch) : ¬ EndsInListener f.report := by
  rintro ⟨text, h⟩
  unfold Mismatch.report at h
  split at h
  · cases h
  · split at h <;> cases h

end EndsInListener

namespace LogSlot

variable {s : LogSlot}

/-- An emission ends in the fault of a listener exactly if it breaks the slot. -/
theorem endsInListener_emit_iff (s : LogSlot) (r : LogRecord) :
    EndsInListener (s.emit r).1 ↔ s.broken = false ∧ (s.emit r).2.broken = true := by
  cases hs : s.receiver with
  | none => simp [emit_of_no_receiver hs]
  | some l =>
    obtain ⟨hbroken, hlistener⟩ := receiver_eq_some_iff.mp hs
    by_cases hfailed : ∃ text, l.answer s.records r = .failed text
    · obtain ⟨text, hfailed⟩ := hfailed
      rw [emit_of_failed hbroken hlistener hfailed]
      exact iff_of_true ⟨text, rfl⟩ ⟨hbroken, rfl⟩
    · rw [emit_of_taken hbroken hlistener fun text h => hfailed ⟨text, h⟩]
      simp [deliver, hbroken]

theorem broken_emit (h : s.broken = true) (r : LogRecord) : (s.emit r).2.broken = true :=
  broken_emit_iff.mpr (.inl h)

/-- A slot that is broken stays so, whatever is done to it. -/
theorem broken_replay (h : s.broken = true) (events : List Event) :
    (s.replay events).broken = true := by
  induction events using List.reverseRecOn with
  | nil => exact h
  | append_singleton events e ih =>
    rw [replay_concat]
    cases e with
    | set l => exact ih
    | clear => exact ih
    | emit r => exact broken_emit ih r

/-- If broken slots are those with a failed delivery, they go on being those. -/
theorem broken_replay_iff_of_iff (h : s.broken = true ↔ ∃ d ∈ s.deliveries, d.Failed)
    (events : List Event) :
    (s.replay events).broken = true ↔ ∃ d ∈ (s.replay events).deliveries, d.Failed := by
  induction events using List.reverseRecOn with
  | nil => exact h
  | append_singleton events e ih =>
    rw [replay_concat]
    exact broken_react_iff ih e

end LogSlot

/-! ## Actions that tell of a failure -/

namespace Action

variable {α β : Type}

/-- An action that mends no slot, and ends in the fault of a listener exactly if it breaks the
slot. -/
structure Telling (x : Action α) : Prop where
  stays : ∀ h, h.log.broken = true → (x h).2.log.broken = true
  tells : ∀ h, EndsInListener (x h).1 ↔ h.log.broken = false ∧ (x h).2.log.broken = true

/-- An action that breaks no slot, and does not end in the fault of a listener. -/
theorem telling_of_broken_eq {x : Action α} (hbroken : ∀ h, (x h).2.log.broken = h.log.broken)
    (hresult : ∀ h, ¬ EndsInListener (x h).1) : Telling x where
  stays h htrue := (hbroken h).trans htrue
  tells h := iff_of_false (hresult h) fun ⟨hfalse, htrue⟩ => by simp [hbroken h, hfalse] at htrue

theorem telling_emit (level : Level) (message : String) : Telling (emit level message) where
  stays _ hbroken := LogSlot.broken_emit hbroken _
  tells h := h.log.endsInListener_emit_iff _

theorem telling_setListener (l : Listener) : Telling (setListener l) :=
  telling_of_broken_eq (fun _ => rfl) fun _ => not_endsInListener_ok ()

theorem telling_clearListener : Telling clearListener :=
  telling_of_broken_eq (fun _ => rfl) fun _ => not_endsInListener_ok ()

/-- An action that gives a result has broken no slot. -/
theorem Telling.broken_eq {x : Action α} (hx : Telling x) {h h' : Host} {a : α}
    (hr : x h = (.ok a, h')) : h'.log.broken = h.log.broken := by
  have hstays := hx.stays h
  have htells := hx.tells h
  rw [hr] at hstays htells
  cases hbroken : h.log.broken with
  | true => exact hstays hbroken
  | false =>
    rw [← Bool.not_eq_true]
    exact fun htrue => not_endsInListener_ok a (htells.mpr ⟨hbroken, htrue⟩)

theorem Telling.bind {x : Action α} {f : α → Action β} (hx : Telling x) (hf : ∀ a, Telling (f a)) :
    Telling (x >>= f) where
  stays h hbroken := by
    have hstays := hx.stays h hbroken
    rw [bind_apply]
    rcases hr : x h with ⟨e | a, h'⟩ <;> rw [hr] at hstays
    · exact hstays
    · exact (hf a).stays h' hstays
  tells h := by
    have htells := hx.tells h
    rw [bind_apply]
    rcases hr : x h with ⟨e | a, h'⟩
    · rw [hr, endsInListener_error_iff] at htells
      exact (endsInListener_error_iff e).trans htells
    · rw [← hx.broken_eq hr]
      exact (hf a).tells h'

theorem composes_telling : Composes Telling where
  pure a := telling_of_broken_eq (fun _ => rfl) fun _ => not_endsInListener_ok a
  bind := Telling.bind
  read _ hf := ⟨fun h => (hf h).stays h, fun h => (hf h).tells h⟩
  emit := telling_emit
  report f := telling_of_broken_eq (fun _ => rfl) fun _ => not_endsInListener_report f
  unmatched _ := telling_of_broken_eq (fun _ => rfl) fun _ => by simp

theorem telling_drop (g : Guard) : Telling (drop g) where
  stays h hbroken := by
    rw [drop_apply]
    split
    · exact hbroken
    · exact LogSlot.broken_emit hbroken _
  tells h := by
    rw [drop_apply]
    split
    · exact iff_of_false (not_endsInListener_ok ()) fun ⟨hfalse, htrue⟩ => by simp [hfalse] at htrue
    · exact h.log.endsInListener_emit_iff _

end Action

open HighlightCheck.Action

/-- A tokenizer that gives tokens for any code in any setting. -/
def Tokenizer.Total (t : Tokenizer) : Prop :=
  ∀ setting code, ∃ tokens, t.tokenize setting code = .ok tokens

theorem Session.Request.telling_run (r : Request) (ht : r.tokenizer.Total) : Telling r.run := by
  refine composes_telling.run r fun setting code => ?_
  obtain ⟨tokens, htokens⟩ := ht setting code
  exact telling_of_broken_eq (fun _ => rfl) fun _ => by simp [htokens]

/-! ## Acts of a thread -/

namespace Thread

variable {s : Thread} {op : Op} {a : Act}

/-- An operation that asks nothing of a tokenizer without tokens. -/
def Op.Total : Op → Prop
  | request r => r.tokenizer.Total
  | _ => True

/-- The same of an act. -/
def Act.Total : Act → Prop
  | .op op => op.Total
  | _ => True

theorem endsInListener_perform_iff {α : Type} {x : Action α} (hx : Telling x) (s : Thread) :
    EndsInListener (s.perform x).1 ↔
      s.host.log.broken = false ∧ (s.perform x).2.host.log.broken = true :=
  (endsInListener_map_iff _ _).trans (hx.tells s.host)

theorem endsInListener_step_iff (hop : op.Total) (s : Thread) :
    EndsInListener (s.step op).1 ↔
      s.host.log.broken = false ∧ (s.step op).2.host.log.broken = true := by
  cases op with
  | load cache =>
    rw [step_load]
    exact s.host.log.endsInListener_emit_iff _
  | drop id =>
    cases hg : s.find? id with
    | none => simp [step, hg]
    | some g =>
      simp only [step, hg]
      exact endsInListener_perform_iff (telling_drop g) _
  | forget id => simp [step, giveUp]
  | request r => exact endsInListener_perform_iff (r.telling_run hop) s
  | emit record => exact endsInListener_perform_iff (telling_emit _ _) s
  | setListener l => exact endsInListener_perform_iff (telling_setListener l) s
  | clearListener => exact endsInListener_perform_iff telling_clearListener s

/-- **One act.** It ends in the fault of a listener exactly if it breaks the slot. -/
theorem endsInListener_iff (ha : a.Total) (s : Thread) :
    EndsInListener (s.result a) ↔
      s.host.log.broken = false ∧ (s.after a).host.log.broken = true := by
  cases a with
  | op op =>
    rw [result, ← endsInListener_map_iff fun _ => (), map_resultOf]
    exact endsInListener_step_iff ha s
  | _ => simp [result, after]

theorem exists_log_after_eq_replay (s : Thread) (a : Act) :
    ∃ events, (s.after a).host.log = s.host.log.replay events := by
  cases a with
  | op op => exact ⟨_, log_step s op⟩
  | _ => exact ⟨[], rfl⟩

end Thread

/-! ## Turns of a process -/

namespace Process

open Thread (Act)

variable {ι : Type} {p : Process ι}

/-- With a broken slot, every thread is like one of a process in which nobody listens. -/
theorem alike_of_broken (h : p.log.broken = true) {log : LogSlot} (hlog : log.listener = none)
    (i : ι) : (p.thread i).Alike ({ p with log := log }.thread i) :=
  ⟨⟨rfl, rfl, LogSlot.reliable_of_broken h, LogSlot.reliable_of_listener_eq_none hlog⟩, rfl⟩

variable [DecidableEq ι] {schedule : List (ι × Act)} {turn : ι × Act} {j k : Nat}

theorem run_append (p : Process ι) (first rest : List (ι × Act)) :
    p.run (first ++ rest) = (p.run first).run rest :=
  List.foldl_append

theorem broken_step (h : p.log.broken = true) (turn : ι × Act) :
    (p.step turn).log.broken = true := by
  obtain ⟨events, hevents⟩ := (p.thread turn.1).exists_log_after_eq_replay turn.2
  show ((p.thread turn.1).after turn.2).host.log.broken = true
  rw [hevents]
  exact LogSlot.broken_replay h events

theorem broken_run (h : p.log.broken = true) (schedule : List (ι × Act)) :
    (p.run schedule).log.broken = true := by
  induction schedule generalizing p with
  | nil => exact h
  | cons turn rest ih => exact ih (broken_step h turn)

/-- The slot is broken exactly if a delivery has failed. -/
theorem broken_run_iff (h : p.log.broken = true ↔ ∃ d ∈ p.log.deliveries, d.Failed)
    (schedule : List (ι × Act)) :
    (p.run schedule).log.broken = true ↔ ∃ d ∈ (p.run schedule).log.deliveries, d.Failed := by
  induction schedule generalizing p with
  | nil => exact h
  | cons turn rest ih =>
    refine ih ?_
    obtain ⟨events, hevents⟩ := (p.thread turn.1).exists_log_after_eq_replay turn.2
    show ((p.thread turn.1).after turn.2).host.log.broken = true ↔
      ∃ d ∈ ((p.thread turn.1).after turn.2).host.log.deliveries, d.Failed
    rw [hevents]
    exact LogSlot.broken_replay_iff_of_iff h events

/-- The process before turn number `k` of a schedule. -/
def before (p : Process ι) (schedule : List (ι × Act)) (k : Nat) : Process ι :=
  p.run (schedule.take k)

theorem before_succ (h : schedule[k]? = some turn) (p : Process ι) :
    p.before schedule (k + 1) = (p.before schedule k).step turn := by
  rw [before, List.take_add_one, h, run_append]
  rfl

theorem broken_mono (hjk : j ≤ k) (h : (p.before schedule j).log.broken = true) :
    (p.before schedule k).log.broken = true := by
  obtain ⟨rest, hrest⟩ := List.take_prefix_take_left (l := schedule) hjk
  rw [before, ← hrest, run_append]
  exact broken_run h rest

/-- Turn number `k` of a schedule ends in the fault of a listener. -/
def FailsAt (p : Process ι) (schedule : List (ι × Act)) (k : Nat) : Prop :=
  ∃ turn, schedule[k]? = some turn ∧
    EndsInListener (((p.before schedule k).thread turn.1).result turn.2)

/-- A turn ends in the fault of a listener exactly if it breaks the slot. -/
theorem failsAt_iff (htotal : ∀ turn ∈ schedule, turn.2.Total) :
    p.FailsAt schedule k ↔ k < schedule.length ∧ (p.before schedule k).log.broken = false ∧
      (p.before schedule (k + 1)).log.broken = true := by
  constructor
  · rintro ⟨turn, hturn, hends⟩
    rw [Thread.endsInListener_iff (htotal turn (List.mem_of_getElem? hturn))] at hends
    rw [before_succ hturn]
    exact ⟨(List.getElem?_eq_some_iff.mp hturn).1, hends⟩
  · rintro ⟨hk, hbroken⟩
    have hturn := List.getElem?_eq_getElem hk
    rw [before_succ hturn] at hbroken
    exact ⟨_, hturn, (Thread.endsInListener_iff (htotal _ (List.getElem_mem hk)) _).mpr hbroken⟩

/-- The turn of a thread changes the guards alike in processes whose threads are alike. -/
theorem share_step_eq {p' : Process ι} (h : ∀ i, (p.thread i).Alike (p'.thread i))
    (turn : ι × Act) : (p'.step turn).share = (p.step turn).share := by
  funext i
  by_cases hi : i = turn.1
  · subst hi
    simp only [step, put, Function.update_self, (h turn.1).guards_after, (h turn.1).held_after]
  · rw [step, step, share_put_of_ne hi, share_put_of_ne hi]
    exact congrArg₂ Share.mk (h i).host.guards (h i).held

/-- **One failure.** Let the threads of a process do what they will, with any listeners, and with
tokenizers that give tokens. A turn ends in the fault of a listener exactly if a delivery fails
during it, and there is at most one such turn. Every turn after it gives the same, and does the same
to the guards of all threads, as it would in the same process without a listener. -/
theorem listener_fails_once (files : FileTree) (htotal : ∀ turn ∈ schedule, turn.2.Total) :
    let start : Process ι := fresh files .empty
    (∀ k, start.FailsAt schedule k ↔ k < schedule.length ∧
      (∀ d ∈ (start.before schedule k).log.deliveries, ¬ d.Failed) ∧
      ∃ d ∈ (start.before schedule (k + 1)).log.deliveries, d.Failed) ∧
    (∀ j k, start.FailsAt schedule j → start.FailsAt schedule k → j = k) ∧
    ∀ j k turn, start.FailsAt schedule j → j < k → schedule[k]? = some turn →
      ∀ log : LogSlot, log.listener = none →
        let here := start.before schedule k
        let deaf := { here with log := log }
        (deaf.thread turn.1).result turn.2 = (here.thread turn.1).result turn.2 ∧
          (deaf.step turn).share = (here.step turn).share := by
  intro start
  have hiff (k : Nat) : (start.before schedule k).log.broken = true ↔
      ∃ d ∈ (start.before schedule k).log.deliveries, d.Failed :=
    broken_run_iff (by simp [start, fresh, LogSlot.empty]) _
  refine ⟨fun k => ?_, fun j k hj hk => ?_, fun j k turn hj hjk hturn log hlog => ?_⟩
  · rw [failsAt_iff htotal, ← hiff (k + 1), ← Bool.not_eq_true, hiff k]
    simp
  · obtain ⟨-, hj, hj'⟩ := (failsAt_iff htotal).mp hj
    obtain ⟨-, hk, hk'⟩ := (failsAt_iff htotal).mp hk
    rcases Nat.lt_trichotomy j k with hlt | heq | hlt
    · simp [broken_mono hlt hj'] at hk
    · exact heq
    · simp [broken_mono hlt hk'] at hj
  · obtain ⟨-, -, hbroken⟩ := (failsAt_iff htotal).mp hj
    have halike := alike_of_broken (broken_mono hjk hbroken) hlog
    exact ⟨(halike turn.1).result_eq turn.2, share_step_eq halike turn⟩

/-- A table of one check. -/
def oneCheck : Act :=
  .op (.request (.cases .shell [⟨"call", "ls", [⟨.name, "ls"⟩]⟩]))

/-- A thread loads a cache while a listener fails on everything, and another one sets such a
listener anew. -/
def stubborn : List (Bool × Act) :=
  let failing : Listener := ⟨none, fun _ _ => .failed "no"⟩
  [(true, .op (.setListener failing)), (false, .op (.load .empty)),
   (true, .op (.setListener failing)), (true, .op (.emit ⟨.info, "again"⟩)), (false, oneCheck)]

/-- Only the load ends in a fault. The guard that it has made is active from then on. -/
theorem listener_fails_once_of_stubborn :
    let start : Process Bool := fresh .empty .empty
    let here := start.before stubborn 4
    (∀ k, start.FailsAt stubborn k ↔ k = 1) ∧
    (here.share false).guards.active = [⟨0, .empty⟩] ∧
    (here.step (false, oneCheck)).share =
      ({ here with log := .empty }.step (false, oneCheck)).share := by
  intro start here
  have hshell : Tokenizer.shell.Total := fun _ _ => ⟨_, rfl⟩
  have htotal : ∀ turn ∈ stubborn, turn.2.Total := by
    simp [stubborn, oneCheck, Act.Total, Thread.Op.Total, Session.Request.tokenizer, hshell]
  obtain ⟨-, honce, hlater⟩ := listener_fails_once .empty htotal
  have hload : start.FailsAt stubborn 1 := ⟨_, rfl, "no", rfl⟩
  obtain ⟨-, hshare⟩ := hlater 1 4 _ hload (by decide) rfl .empty rfl
  exact ⟨fun k => ⟨fun hk => honce k 1 hk hload, fun hk => hk ▸ hload⟩, rfl, hshare.symm⟩

end Process

end HighlightCheck
