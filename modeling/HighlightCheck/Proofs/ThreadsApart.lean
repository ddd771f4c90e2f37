import HighlightCheck.Proofs.Ledger
import HighlightCheck.Proofs.Process
import HighlightCheck.Tokenizer.Shell

/-!
# Threads that share a log

As long as nobody sets a listener, and no listener fails, the threads of a process do not notice one
another: what each gives and emits, and which guards it has, is what it would be if the others never
acted. What the log receives is made of what it would receive of each thread alone.

* `own`, `Interleaves`: what of a list is one thread's, and lists that make up a list.
* `Process.alike_step_self`, `Process.alike_step_of_ne`: one turn, for the thread that acts and for
  another one.
* `Process.alike_run`, `Process.own_outcomes`: all turns.
* `Process.threads_apart`: a schedule from the start of the threads.
-/

namespace HighlightCheck

/-! ## Interleaved lists -/

section Own

variable {ι α β : Type} [DecidableEq ι] {i j : ι}

/-- What is labelled with `i`, in its order. -/
def own (i : ι) (l : List (ι × α)) : List α :=
  (l.filter (·.1 = i)).map (·.2)

/-- `whole` can be labelled such that `part i` is what is labelled with `i`. -/
def Interleaves (whole : List α) (part : ι → List α) : Prop :=
  ∃ labelled : List (ι × α), labelled.map (·.2) = whole ∧ ∀ i, own i labelled = part i

@[simp] theorem own_nil (i : ι) : own i ([] : List (ι × α)) = [] := rfl

@[simp] theorem own_cons_self (i : ι) (a : α) (l : List (ι × α)) :
    own i ((i, a) :: l) = a :: own i l := by
  simp [own]

theorem own_cons_of_ne (h : i ≠ j) (a : α) (l : List (ι × α)) : own i ((j, a) :: l) = own i l := by
  simp [own, h.symm]

theorem own_append (i : ι) (l l' : List (ι × α)) : own i (l ++ l') = own i l ++ own i l' := by
  simp [own]

theorem own_map_self (i : ι) (l : List α) : own i (l.map (i, ·)) = l := by
  induction l with
  | nil => rfl
  | cons a l ih => rw [List.map_cons, own_cons_self, ih]

theorem own_map_of_ne (h : i ≠ j) (l : List α) : own i (l.map (j, ·)) = [] := by
  induction l with
  | nil => rfl
  | cons a l ih => rw [List.map_cons, own_cons_of_ne h, ih]

theorem interleaves_nil : Interleaves ([] : List α) fun _ : ι => [] :=
  ⟨[], rfl, fun _ => rfl⟩

theorem own_flatMap (i : ι) (f : α → List β) (l : List (ι × α)) :
    own i (l.flatMap fun x => (f x.2).map (x.1, ·)) = (own i l).flatMap f := by
  induction l with
  | nil => rfl
  | cons x l ih =>
    obtain ⟨j, a⟩ := x
    rw [List.flatMap_cons, own_append, ih]
    by_cases h : i = j
    · subst h
      rw [own_map_self, own_cons_self, List.flatMap_cons]
    · rw [own_map_of_ne h, own_cons_of_ne h, List.nil_append]

/-- What is made of the entries of a list is made of the parts of the list. -/
theorem interleaves_flatMap (f : α → List β) (l : List (ι × α)) :
    Interleaves (l.flatMap fun x => f x.2) fun i => (own i l).flatMap f :=
  ⟨l.flatMap fun x => (f x.2).map (x.1, ·), by simp [List.map_flatMap, Function.comp_def],
    fun i => own_flatMap i f l⟩

end Own

/-! ## What a log receives -/

namespace LogSlot

variable {s : LogSlot} {l : Listener}

/-- The records that a log receives of those that are emitted: all of them if somebody listens. -/
def received (s : LogSlot) (records : List LogRecord) : List LogRecord :=
  if s.receiver.isSome then records else []

theorem emitAll_append (s : LogSlot) (records records' : List LogRecord) :
    s.emitAll (records ++ records') = (s.emitAll records).emitAll records' := by
  rw [emitAll, List.map_append, replay_append]
  rfl

theorem records_emitAll (h : s.Reliable) (records : List LogRecord) :
    (s.emitAll records).records = s.records ++ s.received records := by
  unfold received
  cases hs : s.receiver with
  | none =>
    suffices hsame : s.emitAll records = s by simp [hsame]
    induction records with
    | nil => rfl
    | cons r records ih => rw [emitAll_cons, emit_of_no_receiver hs, ih]
  | some l => exact records_emitAll_of_receiver hs (h l hs) records

end LogSlot

/-! ## One thread -/

namespace Thread

theorem log_afterAll {acts : List Act} (h : ∀ a ∈ acts, a.setsListener = false) (s : Thread) :
    (s.afterAll acts).host.log = s.host.log.emitAll ((s.outcomes acts).flatMap (·.records)) := by
  induction acts generalizing s with
  | nil => rfl
  | cons a rest ih =>
    obtain ⟨ha, hrest⟩ := List.forall_mem_cons.mp h
    show ((s.after a).afterAll rest).host.log = _
    rw [ih hrest, log_after ha, ← LogSlot.emitAll_append]
    rfl

end Thread

/-! ## All threads -/

namespace Process

open Thread (Act Outcome)

variable {ι : Type} [DecidableEq ι] {p : Process ι} {i j : ι} {s : Thread} {a : Act}
  {schedule : List (ι × Act)}

/-- A thread that was alike goes on alike when it acts. -/
theorem alike_step_self (h : (p.thread i).Alike s) (ha : a.setsListener = false) :
    ((p.step (i, a)).thread i).Alike (s.after a) := by
  rw [thread_step_self]
  exact h.after ha

/-- It stays alike when another one acts. -/
theorem alike_step_of_ne (hij : i ≠ j) (h : (p.thread i).Alike s) (ha : a.setsListener = false) :
    ((p.step (j, a)).thread i).Alike s := by
  rw [thread_step_of_ne hij]
  have hlog : (p.thread j).host.log.Reliable := h.host.reliable
  exact ⟨⟨h.host.files, h.host.guards, Thread.reliable_after hlog ha, h.host.reliable'⟩, h.held⟩

theorem alike_run (h : (p.thread i).Alike s)
    (hschedule : ∀ turn ∈ schedule, turn.2.setsListener = false) :
    ((p.run schedule).thread i).Alike (s.afterAll (own i schedule)) := by
  induction schedule generalizing p s with
  | nil => exact h
  | cons turn rest ih =>
    obtain ⟨j, a⟩ := turn
    obtain ⟨ha, hrest⟩ := List.forall_mem_cons.mp hschedule
    by_cases hij : i = j
    · subst hij
      rw [own_cons_self]
      exact ih (alike_step_self h ha) hrest
    · rw [own_cons_of_ne hij]
      exact ih (alike_step_of_ne hij h ha) hrest

/-- What there is to see of a thread is what there is to see of it alone. -/
theorem own_outcomes (h : (p.thread i).Alike s)
    (hschedule : ∀ turn ∈ schedule, turn.2.setsListener = false) :
    own i (p.outcomes schedule) = s.outcomes (own i schedule) := by
  induction schedule generalizing p s with
  | nil => rfl
  | cons turn rest ih =>
    obtain ⟨j, a⟩ := turn
    obtain ⟨ha, hrest⟩ := List.forall_mem_cons.mp hschedule
    rw [outcomes]
    by_cases hij : i = j
    · subst hij
      rw [own_cons_self, own_cons_self, ih (alike_step_self h ha) hrest, Thread.outcomes,
        h.outcome_eq]
    · rw [own_cons_of_ne hij, own_cons_of_ne hij, ih (alike_step_of_ne hij h ha) hrest]

theorem log_run (hschedule : ∀ turn ∈ schedule, turn.2.setsListener = false) (p : Process ι) :
    (p.run schedule).log = p.log.emitAll ((p.outcomes schedule).flatMap (·.2.records)) := by
  induction schedule generalizing p with
  | nil => rfl
  | cons turn rest ih =>
    obtain ⟨ha, hrest⟩ := List.forall_mem_cons.mp hschedule
    have hlog : (p.step turn).log = p.log.emitAll ((p.thread turn.1).records turn.2) :=
      Thread.log_after ha
    show ((p.step turn).run rest).log = _
    rw [ih hrest, hlog, ← LogSlot.emitAll_append]
    rfl

theorem setsListener_of_mem_own (hschedule : ∀ turn ∈ schedule, turn.2.setsListener = false)
    (h : a ∈ own i schedule) : a.setsListener = false := by
  obtain ⟨turn, hturn, rfl⟩ := List.mem_map.mp h
  exact hschedule turn (List.mem_filter.mp hturn).1

/-- **Threads that do not notice one another.** Let the threads of a process act in any order, where
nobody sets a listener and no listener fails. What each act gives and emits, and the guards that
each thread has in the end, are what they would be if the thread had acted alone. The log receives
what it would receive of the threads alone, each in its order. -/
theorem threads_apart (files : FileTree) {log : LogSlot} (hlog : log.Reliable)
    (hschedule : ∀ turn ∈ schedule, turn.2.setsListener = false) :
    let start : Process ι := fresh files log
    let alone (i : ι) := (Thread.fresh files log).afterAll (own i schedule)
    (∀ i, own i (start.outcomes schedule) = (Thread.fresh files log).outcomes (own i schedule) ∧
      ((start.run schedule).share i).guards = (alone i).host.guards ∧
      ((start.run schedule).share i).held = (alone i).held) ∧
    ∃ (whole : List LogRecord) (part : ι → List LogRecord),
      (start.run schedule).log.records = log.records ++ whole ∧
      (∀ i, (alone i).host.log.records = log.records ++ part i) ∧
      Interleaves whole part := by
  intro start alone
  have halike (i : ι) : (start.thread i).Alike (Thread.fresh files log) :=
    ⟨⟨rfl, rfl, hlog, hlog⟩, rfl⟩
  refine ⟨fun i => ?_, log.received ((start.outcomes schedule).flatMap (·.2.records)),
    fun i => log.received ((own i (start.outcomes schedule)).flatMap (·.records)), ?_,
    fun i => ?_, ?_⟩
  · have hrun := alike_run (halike i) hschedule
    exact ⟨own_outcomes (halike i) hschedule, hrun.host.guards.symm, hrun.held.symm⟩
  · rw [log_run hschedule]
    exact LogSlot.records_emitAll hlog _
  · dsimp only
    rw [own_outcomes (halike i) hschedule,
      Thread.log_afterAll fun a => setsListener_of_mem_own hschedule]
    exact LogSlot.records_emitAll hlog _
  · unfold LogSlot.received
    cases log.receiver with
    | none => exact interleaves_nil
    | some l => exact interleaves_flatMap _ _

/-- Two threads check the same code, one with a command loaded, and drop a guard with the same
number. -/
def crossing : List (Bool × Act) :=
  [(true, .op (.load (CommandCache.empty.addCommand "ls"))),
   (false, .op (.request (.check .shell "ls" [⟨.name, "ls"⟩]))),
   (true, .op (.request (.check .shell "ls" [⟨.keyword, "ls"⟩]))),
   (false, .op (.load .empty)), (true, .op (.drop 0)), (false, .op (.drop 0)), (true, .hasActive)]

theorem threads_apart_of_crossing :
    let start : Process Bool := fresh .empty Thread.collecting
    let alone (i : Bool) := (Thread.fresh .empty Thread.collecting).afterAll (own i crossing)
    (∀ i, own i (start.outcomes crossing) =
      (Thread.fresh .empty Thread.collecting).outcomes (own i crossing)) ∧
    (start.run crossing).log.records.map (·.message) =
      ["builtins 0 loaded (depth 1, 1 commands, 0 aliases, 0 path dirs)",
       "FakeShell: matched 1 of 1 tokens in \"ls\"", "FakeShell: matched 1 of 1 tokens in \"ls\"",
       "builtins 0 loaded (depth 1, 0 commands, 0 aliases, 0 path dirs)",
       "builtins 0 released (1 entries)", "builtins 0 released (1 entries)"] ∧
    ∃ whole part, (start.run crossing).log.records = whole ∧
      (∀ i, (alone i).host.log.records = part i) ∧ Interleaves whole part := by
  intro start alone
  have hlog : Thread.collecting.Reliable := LogSlot.reliable_of_listener fun l hl => by
    cases hl
    exact Listener.collector_reliable none .debug
  have hschedule : ∀ turn ∈ crossing, turn.2.setsListener = false := by
    simp [crossing, Act.setsListener]
  obtain ⟨hthreads, whole, part, hwhole, hpart, hinterleaves⟩ := threads_apart .empty hlog hschedule
  exact ⟨fun i => (hthreads i).1, by decide +kernel, whole, part, hwhole, hpart, hinterleaves⟩

end Process

end HighlightCheck
