import HighlightCheck.Proofs.SessionParts

/-!
# Sessions and processes

A session is what the threads of a process do, one after the other: a step is done by acts on its
thread and on those that it starts, and the rows tell of these acts. So what holds of the turns of
every process holds of sessions.

* `runStep_follows`, `runSteps_follows`: a step, and steps one after the other.
* `exists_schedule`: a session as a schedule of a process.
* `rows_tell_one_failure`: so at most one row of a session tells of a listener that has failed.
-/

namespace HighlightCheck.Session

open Thread (Act Outcome)

/-! ## Steps -/

theorem runStep_reload (slot : String) (s : State) :
    runStep (.reload slot) s =
      match s.host.guards.visible with
      | none => finish (.flag false) s
      | some cache =>
        finishWith (fun _ => .flag true) (fill slot cache s).1 (fill slot cache s).2 := by
  show (match s.host.guards.visible with
    | none => finish (.flag false)
    | some cache => do finishWith (fun _ => .flag true) (← fill slot cache)) s = _
  cases s.host.guards.visible <;> rfl

theorem runStep_drop (slot : String) (s : State) :
    runStep (.drop slot) s =
      match s.slots.guard? slot with
      | none => finish (.flag false) (take slot s).2
      | some g =>
        finishWith (fun _ => .flag true) (perform (Action.drop g) (take slot s).2).1
          (perform (Action.drop g) (take slot s).2).2 := by
  show (match s.slots.guard? slot with
    | none => finish (.flag false)
    | some g => do finishWith (fun _ => .flag true) (← perform (Action.drop g))) (take slot s).2 = _
  cases s.slots.guard? slot <;> rfl

theorem runStep_forget (slot : String) (s : State) :
    runStep (.forget slot) s = finish (.flag (s.slots.guard? slot).isSome) (take slot s).2 := rfl

theorem runStep_reject (unknown : UnknownKind) (s : State) :
    runStep (.reject unknown) s = finish (.error (.unknownKind unknown)) s := rfl

theorem runStep_visible (s : State) :
    runStep .visible s = finish (s.host.guards.visible.elim .nothing .cache) s := by
  show (match s.host.guards.visible with
    | none => finish .nothing
    | some cache => finish (.cache cache)) s = _
  cases s.host.guards.visible <;> rfl

theorem runStep_canRun (word : String) (s : State) :
    runStep (.canRun word) s = finish (s.host.guards.visible.elim .nothing fun cache =>
      .flag (cache.canRun s.host.files word)) s := by
  show (match s.host.guards.visible with
    | none => finish .nothing
    | some cache => finish (.flag (cache.canRun s.host.files word))) s = _
  cases s.host.guards.visible <;> rfl

theorem runStep_onDisk (text : String) (s : State) :
    runStep (.onDisk text) s = finish (s.host.guards.visible.elim .nothing fun _ =>
      .flag (s.host.files.has text)) s := by
  show (match s.host.guards.visible with
    | none => finish .nothing
    | some _ => finish (.flag (s.host.files.has text))) s = _
  cases s.host.guards.visible <;> rfl

theorem runStep_guardCanRun (slot word : String) (s : State) :
    runStep (.guardCanRun slot word) s = finish ((s.slots.guard? slot).elim .nothing fun g =>
      .flag (g.cache.canRun s.host.files word)) s := by
  show (match s.slots.guard? slot with
    | none => finish .nothing
    | some g => finish (.flag (g.cache.canRun s.host.files word))) s = _
  cases s.slots.guard? slot <;> rfl

mutual

/-- **A step.** It is done by acts that it can take, on the thread of the session and on those that it
starts, and its rows tell of them. -/
theorem runStep_follows (step : Step) {s : State} {t : Thread} {away : List Guard}
    (h : s.On t away) (hr : s.Reported) :
    ∃ acts, step.Takes acts ∧
      Follows t (acts ++ [.hasActive]) [(runStep step s).1] (runStep step s).2 away := by
  have hstart := Underway.start h hr
  have htaken (slot : String) :
      Underway t [] [] [] (take slot s).2 ((s.slots.guard? slot).toList ++ away) :=
    hstart.move rfl fun _ hu => hu.take slot
  cases step with
  | load slot cache =>
    obtain ⟨acts, hfills, hfill⟩ := hstart.fill slot cache
    exact ⟨acts, hfills, hfill.finishWith fun _ => rfl⟩
  | reload slot =>
    rw [runStep_reload]
    cases s.host.guards.visible with
    | none => exact ⟨[], .inl rfl, hstart.follows rfl⟩
    | some cache =>
      obtain ⟨acts, hfills, hfill⟩ := hstart.fill slot cache
      refine ⟨acts, .inr ⟨cache, hfills⟩, (hfill.weaken ?_).finishWith fun _ => rfl⟩
      cases (fill slot cache s).1 with
      | ok _ => exact .of_sublist (List.nil_sublist _) (by simp [seenOf, Sight.isFirm])
      | error f => exact .refl _
  | drop slot =>
    have hslot := htaken slot
    rw [runStep_drop]
    cases hg : s.slots.guard? slot with
    | none =>
      rw [hg] at hslot
      exact ⟨[], ⟨none, rfl⟩, hslot.follows rfl⟩
    | some g =>
      rw [hg] at hslot
      exact ⟨_, ⟨some g.id, rfl⟩, (hslot.act (acts_drop g _ away)).finishWith fun _ => rfl⟩
  | forget slot =>
    have hslot := htaken slot
    rw [runStep_forget]
    cases hg : s.slots.guard? slot with
    | none =>
      rw [hg] at hslot
      exact ⟨[], ⟨none, rfl⟩, hslot.follows rfl⟩
    | some g =>
      rw [hg] at hslot
      exact ⟨_, ⟨some g.id, rfl⟩, (hslot.act (acts_forget g _ away)).follows rfl⟩
  | visible =>
    have hseen := (acts_visible s away).underway h hr
    rw [runStep_visible]
    cases hv : s.host.guards.visible with
    | none =>
      rw [hv] at hseen
      exact ⟨_, rfl, hseen.follows rfl⟩
    | some cache =>
      rw [hv] at hseen
      exact ⟨_, rfl, hseen.follows rfl⟩
  | canRun word =>
    rw [runStep_canRun]
    cases s.host.guards.visible <;> exact ⟨[], rfl, hstart.follows rfl⟩
  | onDisk text =>
    rw [runStep_onDisk]
    cases s.host.guards.visible <;> exact ⟨[], rfl, hstart.follows rfl⟩
  | guardCanRun slot word =>
    rw [runStep_guardCanRun]
    cases s.slots.guard? slot <;> exact ⟨[], rfl, hstart.follows rfl⟩
  | request r =>
    exact ⟨_, rfl, ((acts_request r s away).underway h hr).finishWith fun _ => rfl⟩
  | reject unknown =>
    rw [runStep_reject]
    exact ⟨[], rfl, hstart.follows rfl⟩
  | setListener l => exact ⟨_, rfl, ((acts_setListener l s away).underway h hr).finishQuiet⟩
  | clearListener => exact ⟨_, rfl, ((acts_clearListener s away).underway h hr).finishQuiet⟩
  | emit record => exact ⟨_, rfl, ((acts_emit record s away).underway h hr).finishQuiet⟩
  | scope steps raise =>
    obtain ⟨acts, htakes, hinner⟩ := runSteps_follows steps h.leave hr
    have hback : Underway t _ _ _
        { (dropSlots (runSteps steps { s with slots := [] }).2).2 with slots := s.slots } away :=
      hinner.1.dropSlots.move rfl fun u hu => by
        have hheld := hu.held
        rw [slots_dropSlots] at hheld
        exact ⟨hu.host, hheld, h.distinct, hu.apart⟩
    exact ⟨_, ⟨acts, _, htakes, rfl⟩, (hback.weaken (conveys_scope _ raise _)).follows rfl⟩
  | thread steps =>
    have hthere : State.On { s with host := { s.host with guards := .empty }, slots := [] }
        (.fresh s.host.files s.host.log) [] :=
      ⟨rfl, .nil, .nil, Thread.heldApart_fresh _ _⟩
    obtain ⟨acts, htakes, hsteps⟩ := runSteps_follows steps hthere hr
    have hall := hsteps.trans fun u hu => finishAll_follows hu hsteps.2
    rw [← List.append_assoc] at hall
    exact ⟨_, ⟨acts, _, htakes, rfl⟩, (hall.spawn h).1.follows rfl⟩

/-- **Steps**, one after the other. -/
theorem runSteps_follows (steps : List Step) {s : State} {t : Thread} {away : List Guard}
    (h : s.On t away) (hr : s.Reported) :
    ∃ acts, TakeAll steps acts ∧
      Follows t acts (runSteps steps s).1 (runSteps steps s).2 away := by
  cases steps with
  | nil => exact ⟨[], rfl, .start h hr, hr⟩
  | cons step rest =>
    obtain ⟨first, htakes, hstep⟩ := runStep_follows step h hr
    obtain ⟨more, hmore, hall⟩ := hstep.exists_trans fun u hu => runSteps_follows rest hu hstep.2
    exact ⟨_, ⟨first, more, htakes, hmore, rfl⟩, hall⟩

end

/-! ## Sessions -/

/-- The acts that a session can take: those of its steps, and then its guards are dropped. -/
def Takes (steps : List Step) (acts : List Act) : Prop :=
  ∃ inner ids, TakeAll steps inner ∧ acts = inner ++ drops ids ++ [.hasActive]

theorem run_follows (files : FileTree) (steps : List Step) :
    ∃ acts s, Takes steps acts ∧ s.slots = [] ∧
      Follows (.fresh files .empty) acts (run files steps) s [] := by
  have hstart : State.On ⟨Host.fresh files, [], 0⟩ (.fresh files .empty) [] :=
    ⟨rfl, .nil, .nil, Thread.heldApart_fresh _ _⟩
  obtain ⟨acts, htakes, hsteps⟩ := runSteps_follows steps hstart rfl
  have hall := hsteps.trans fun u hu => finishAll_follows hu hsteps.2
  rw [← List.append_assoc] at hall
  exact ⟨_, _, ⟨acts, _, htakes, rfl⟩, slots_finishAll _, hall⟩

/-- **A session in a process.** By turns that can be done one after the other, the threads of a process
take acts that the session can take. Its rows tell what is to be seen of these turns and which of the
deliveries were kept, and in the end the first thread holds no guard. -/
theorem exists_schedule (files : FileTree) (steps : List Step) :
    ∃ schedule : List (Nat × Act),
      let start : Process Nat := .fresh files .empty
      let rows := allRows (run files steps)
      start.Legal schedule ∧ Takes steps (schedule.map (·.2)) ∧
      Conveys (rows.flatMap Row.sights) ((start.outcomes schedule).flatMap (seen ·.2)) ∧
      rows.flatMap (·.records) = (start.run schedule).log.deliveries.filterMap (·.kept?) ∧
      ((start.run schedule).share 0).held = [] := by
  obtain ⟨acts, s, htakes, hslots, ⟨os, u, hleads, hu, hconveys, hlogged⟩, hend⟩ :=
    run_follows files steps
  obtain ⟨new, hnew, hrecords⟩ := hlogged.exists_of_reported hend
  obtain ⟨schedule, n, hreaches⟩ := Process.exists_reaches_of_leads (p := .fresh files .empty)
    (i := 0) (n := 1) hleads rfl Nat.one_pos fun _ _ => rfl
  refine ⟨schedule, hreaches.legal, ?_, ?_, ?_, ?_⟩
  · rw [hreaches.acts]
    exact htakes
  · rw [List.append_nil, ← hreaches.outcomes, List.flatMap_map] at hconveys
    exact hconveys
  · have hlog : ((Process.fresh files .empty : Process Nat).run schedule).log = s.host.log := by
      rw [← hu.host, ← hreaches.thread]
      rfl
    rw [hrecords, hlog, hnew]
    rfl
  · have hheld := hu.held
    rw [hslots] at hheld
    exact (congrArg Thread.held hreaches.thread).trans hheld.eq_nil

/-! ## The failure of a listener -/

/-- An act shows the fault of a listener exactly if it ends in it. -/
theorem countP_seen_eq (o : Outcome) [Decidable (EndsInListener o.result)] :
    (seen o).countP (·.isListenerFault) = if EndsInListener o.result then 1 else 0 := by
  obtain ⟨result, records⟩ := o
  cases result with
  | error f => cases f <;> simp [seen, seenOf, Sight.isListenerFault]
  | ok r =>
    rw [if_neg (not_endsInListener_ok r)]
    cases r with
    | cache c => cases c <;> simp [seen, seenOf, Sight.isListenerFault]
    | _ => simp [seen, seenOf, Sight.isListenerFault]

/-- Turns show the fault of a listener once at most, and never if the slot was broken before. -/
theorem countP_outcomes_le {schedule : List (Nat × Act)} (htotal : ∀ turn ∈ schedule, turn.2.Total)
    (p : Process Nat) :
    ((p.outcomes schedule).flatMap (seen ·.2)).countP (·.isListenerFault) ≤
      if p.log.broken then 0 else 1 := by
  classical
  induction schedule generalizing p with
  | nil => exact Nat.zero_le _
  | cons turn rest ih =>
    obtain ⟨hturn, hrest⟩ := List.forall_mem_cons.mp htotal
    have hlater := ih hrest (p.step turn)
    have hends : EndsInListener ((p.thread turn.1).outcome turn.2).result ↔
        p.log.broken = false ∧ (p.step turn).log.broken = true :=
      Thread.endsInListener_iff hturn (p.thread turn.1)
    rw [Process.outcomes, List.flatMap_cons, List.countP_append, countP_seen_eq]
    cases hbroken : p.log.broken with
    | true =>
      rw [Process.broken_step hbroken turn] at hlater
      rw [if_neg (by simp [hends, hbroken]), Nat.zero_add]
      exact hlater
    | false =>
      cases hafter : (p.step turn).log.broken with
      | true =>
        rw [hafter] at hlater
        rw [if_pos (hends.mpr ⟨hbroken, hafter⟩)]
        exact Nat.add_le_add_left hlater 1
      | false =>
        rw [hafter] at hlater
        rw [if_neg (by simp [hends, hafter]), Nat.zero_add]
        exact hlater

theorem total_of_takes {steps : List Step} {acts : List Act} (h : Takes steps acts)
    (htotal : ∀ r ∈ requestsOf steps, r.tokenizer.Total) {a : Act} (ha : a ∈ acts) : a.Total := by
  obtain ⟨inner, ids, hinner, rfl⟩ := h
  cases a with
  | op op =>
    cases op with
    | request r =>
      refine htotal r (mem_requestsOf_of_takeAll steps hinner ?_)
      simpa [request_notMem_drops] using ha
    | _ => trivial
  | _ => trivial

/-- **One failure.** If the tokenizers that a session asks give tokens, at most one of its rows tells
of a listener that has failed. -/
theorem rows_tell_one_failure (files : FileTree) {steps : List Step}
    (htotal : ∀ r ∈ requestsOf steps, r.tokenizer.Total) :
    ((allRows (run files steps)).flatMap Row.sights).countP (·.isListenerFault) ≤ 1 := by
  obtain ⟨schedule, -, htakes, hconveys, -, -⟩ := exists_schedule files steps
  exact hconveys.sublist.countP_le.trans (countP_outcomes_le
    (fun turn hturn => total_of_takes htakes htotal (List.mem_map_of_mem hturn)) _)

end HighlightCheck.Session
