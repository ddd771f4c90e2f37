import HighlightCheck.Proofs.SessionRows
import HighlightCheck.Proofs.Slots
import HighlightCheck.Proofs.ThreadCourse

/-!
# Acts of a session

A session does its steps by acts on a thread, and on those that it starts. A step says what they can
be (`Step.Takes`); which guards it drops, and whether it makes one again, depends on the slots and on
what is visible.

The guards in the slots of a session are held on its thread. Others are held there too: those in the
slots of the scopes around it, and those on their way into a slot or out of one. So the state of a
session stands on a thread with some guards away (`State.On`), and what a session does to its host is
one act on the thread (`Acts`).

* `Step.Takes`, `TakeAll`: the acts of a step, and of steps one after the other.
* `mem_requests_of_takes`: what they ask of tokenizers is what the steps ask.
* `State.On.take`, `State.On.put`, `State.On.leave`: changes of the slots.
* `State.On.load_ok`, `State.On.drop`, `State.On.forget`: operations on guards.
* `acts_request`, `acts_quiet`, `acts_drop`, `acts_forget`, `acts_visible`: the acts.
-/

namespace HighlightCheck.Session

open Thread (Act Op)

/-! ## The acts of a step -/

/-- Guards are dropped by their numbers. -/
def drops (ids : List Nat) : List Act :=
  ids.map fun id => .op (.drop id)

/-- A guard is made for a cache, and the one that was in its slot is dropped. -/
def Fills (cache : CommandCache) (acts : List Act) : Prop :=
  ∃ old : Option Nat, acts = .op (.load cache) :: drops old.toList

mutual

/-- The acts that a step can take. Those for its row are not among them, but those for the row that
ends a thread are: a row asks its thread whether a guard is active. -/
def Step.Takes : Step → List Act → Prop
  | .load _ cache, acts => Fills cache acts
  | .reload _, acts => acts = [] ∨ ∃ cache, Fills cache acts
  | .drop _, acts => ∃ id : Option Nat, acts = drops id.toList
  | .forget _, acts => ∃ id : Option Nat, acts = id.toList.map fun id => .op (.forget id)
  | .visible, acts => acts = [.visible]
  | .canRun _, acts => acts = []
  | .onDisk _, acts => acts = []
  | .guardCanRun _ _, acts => acts = []
  | .request r, acts => acts = [.op (.request r)]
  | .reject _, acts => acts = []
  | .setListener l, acts => acts = [.op (.setListener l)]
  | .clearListener, acts => acts = [.op .clearListener]
  | .emit record, acts => acts = [.op (.emit record)]
  | .scope steps _, acts => ∃ inner ids, TakeAll steps inner ∧ acts = inner ++ drops ids
  | .thread steps, acts =>
    ∃ inner ids, TakeAll steps inner ∧ acts = inner ++ drops ids ++ [.hasActive]

/-- The acts that steps can take, with those for their rows. -/
def TakeAll : List Step → List Act → Prop
  | [], acts => acts = []
  | step :: rest, acts =>
    ∃ first more, step.Takes first ∧ TakeAll rest more ∧ acts = first ++ [.hasActive] ++ more

end

mutual

/-- What a step asks of tokenizers. -/
def Step.requests : Step → List Request
  | .request r => [r]
  | .scope steps _ => requestsOf steps
  | .thread steps => requestsOf steps
  | _ => []

def requestsOf : List Step → List Request
  | [] => []
  | step :: rest => step.requests ++ requestsOf rest

end

theorem request_notMem_drops (r : Request) (ids : List Nat) : .op (.request r) ∉ drops ids := by
  simp [drops]

theorem Fills.request_notMem {cache : CommandCache} {acts : List Act} (h : Fills cache acts)
    (r : Request) : .op (.request r) ∉ acts := by
  obtain ⟨old, rfl⟩ := h
  simpa using request_notMem_drops r old.toList

mutual

theorem mem_requests_of_takes (step : Step) {acts : List Act} {r : Request} (h : step.Takes acts)
    (hr : .op (.request r) ∈ acts) : r ∈ step.requests := by
  cases step with
  | load slot cache => exact absurd hr (h.request_notMem r)
  | reload slot =>
    obtain rfl | ⟨cache, hfills⟩ := h
    · cases hr
    · exact absurd hr (hfills.request_notMem r)
  | drop slot =>
    obtain ⟨id, rfl⟩ := h
    exact absurd hr (request_notMem_drops r _)
  | forget slot =>
    obtain ⟨id, rfl⟩ := h
    simp at hr
  | request r' =>
    obtain rfl := h
    simpa [Step.requests] using hr
  | scope steps raise =>
    obtain ⟨inner, ids, hinner, rfl⟩ := h
    obtain hr | hr := List.mem_append.mp hr
    · exact mem_requestsOf_of_takeAll steps hinner hr
    · exact absurd hr (request_notMem_drops r ids)
  | thread steps =>
    obtain ⟨inner, ids, hinner, rfl⟩ := h
    rw [List.append_assoc] at hr
    obtain hr | hr := List.mem_append.mp hr
    · exact mem_requestsOf_of_takeAll steps hinner hr
    · simp [request_notMem_drops] at hr
  | _ =>
    obtain rfl := h
    simp at hr

theorem mem_requestsOf_of_takeAll (steps : List Step) {acts : List Act} {r : Request}
    (h : TakeAll steps acts) (hr : .op (.request r) ∈ acts) : r ∈ requestsOf steps := by
  cases steps with
  | nil =>
    obtain rfl := h
    cases hr
  | cons step rest =>
    obtain ⟨first, more, hfirst, hmore, rfl⟩ := h
    refine List.mem_append.mpr ?_
    rw [List.append_assoc] at hr
    obtain hr | hr := List.mem_append.mp hr
    · exact .inl (mem_requests_of_takes step hfirst hr)
    · exact .inr (mem_requestsOf_of_takeAll rest hmore (by simpa using hr))

end

/-! ## The state of a session on a thread -/

/-- A session does its steps on a thread. The guards in `away` are held on the thread, but in no slot
that the session has now. -/
structure State.On (s : State) (u : Thread) (away : List Guard) : Prop where
  host : u.host = s.host
  held : u.held.Perm (s.slots.held ++ away)
  distinct : s.slots.Distinct
  apart : u.HeldApart

namespace State.On

variable {s : State} {u : Thread} {away : List Guard} {g : Guard}

theorem perform {α : Type} {action : Action α} (h : s.On u away)
    (hkeeps : Action.KeepsGuards action) :
    (Session.perform action s).2.On (u.perform action).2 away where
  host := congrArg (fun h => (action h).2) h.host
  held := h.held
  distinct := h.distinct
  apart := h.apart.of_sublist (List.Sublist.refl _)
    (congrArg GuardStack.nextId (Thread.guards_perform hkeeps))

/-- A guard that is held in no slot is dropped. -/
theorem drop (h : s.On u (g :: away)) :
    u.Allows (.drop g.id) ∧
    (u.step (.drop g.id)).1 = (Session.perform (Action.drop g) s).1.map (fun _ => ()) ∧
    (Session.perform (Action.drop g) s).2.On (u.step (.drop g.id)).2 away := by
  have hheld := h.held.trans List.perm_middle
  have hmem : g ∈ u.held := hheld.mem_iff.mpr List.mem_cons_self
  have hfind := h.apart.find?_eq hmem
  refine ⟨List.mem_map_of_mem hmem, ?_, ?_, ?_, h.distinct, h.apart.step _⟩
  · simp only [Thread.step, hfind]
    exact congrArg (fun h => (Action.drop g h).1.map fun _ => ()) h.host
  · rw [Thread.host_step_drop hfind]
    exact congrArg (fun h => (Action.drop g h).2) h.host
  · rw [Thread.held_step_drop]
    exact h.apart.perm_filter hheld

/-- A guard that is made is held in no slot yet. -/
theorem load_ok (h : s.On u away) {cache : CommandCache} {host : Host}
    (hload : Action.load cache s.host = (.ok g, host)) :
    seen (u.outcome (.op (.load cache))) = [.cache cache] ∧
    State.On { s with host := host } (u.step (.load cache)).2 (g :: away) := by
  have hstep : u.step (.load cache) = (.ok (), ⟨host, u.held ++ [g]⟩) := by
    simp only [Thread.step, h.host, hload]
  refine ⟨?_, ?_, ?_, h.distinct, h.apart.step _⟩
  · simp only [seen, Thread.outcome, Thread.result, Thread.resultOf, h.host, hload]
    exact congrArg (fun cache => [Sight.cache cache]) (Action.cache_of_load_eq_ok hload)
  · rw [hstep]
  · rw [hstep]
    refine (h.held.append_right [g]).trans ?_
    rw [List.append_assoc]
    exact (List.perm_append_singleton g away).append_left _

theorem load_error (h : s.On u away) {cache : CommandCache} {host : Host} {f : Fault}
    (hload : Action.load cache s.host = (.error f, host)) :
    seen (u.outcome (.op (.load cache))) = [.fault f] ∧
    State.On { s with host := host } (u.step (.load cache)).2 away := by
  have hstep : u.step (.load cache) = (.error f, ⟨host, u.held⟩) := by
    simp only [Thread.step, h.host, hload]
  refine ⟨?_, ?_, ?_, h.distinct, h.apart.step _⟩
  · simp only [seen, Thread.outcome, Thread.result, Thread.resultOf, h.host, hload]
    rfl
  · rw [hstep]
  · rw [hstep]
    exact h.held

theorem forget (h : s.On u (g :: away)) :
    u.Allows (.forget g.id) ∧ s.On (u.step (.forget g.id)).2 away := by
  have hheld := h.held.trans List.perm_middle
  exact ⟨List.mem_map_of_mem (hheld.mem_iff.mpr List.mem_cons_self), h.host,
    h.apart.perm_filter hheld, h.distinct, h.apart.step _⟩

/-- A guard that is taken out of its slot is held in none. -/
theorem take (h : s.On u away) (slot : String) :
    (Session.take slot s).2.On u ((s.slots.guard? slot).toList ++ away) where
  host := h.host
  held := by
    rw [← List.append_assoc]
    exact h.held.trans ((h.distinct.held_perm_remove slot).append_right away)
  distinct := h.distinct.remove slot
  apart := h.apart

/-- A guard that is put into a slot leaves the one that was there in none. -/
theorem put (h : s.On u (g :: away)) (slot : String) :
    State.On { s with slots := s.slots.put slot g } u ((s.slots.guard? slot).toList ++ away) where
  host := h.host
  held := by
    have hput := (h.distinct.held_put_perm slot g).symm.append_right away
    rw [List.append_assoc, List.append_assoc] at hput
    exact h.held.trans hput
  distinct := h.distinct.put slot g
  apart := h.apart

/-- In a scope or before a drop, no slot holds what was held. -/
theorem leave (h : s.On u away) : State.On { s with slots := [] } u (s.slots.held ++ away) :=
  ⟨h.host, h.held, .nil, h.apart⟩

end State.On

/-! ## One act -/

/-- By one act, of which `sights` are seen, a session comes from `s` to `s'`. -/
def Acts (s : State) (away : List Guard) (a : Act) (sights : List Sight) (s' : State)
    (away' : List Guard) : Prop :=
  s'.reported = s.reported ∧ ∀ u, s.On u away →
    u.AllowsAct a ∧ seen (u.outcome a) = sights ∧ s'.On (u.after a) away'

/-- An operation that does nothing to a guard. -/
theorem acts_perform {α : Type} {action : Action α} (op : Op) {sights : α → List Sight}
    (hkeeps : Action.KeepsGuards action) (hallows : ∀ u : Thread, u.Allows op)
    (hstep : ∀ u : Thread, u.step op = u.perform action)
    (hseen : ∀ u : Thread, seen (u.outcome (.op op)) = seenOf sights (action u.host).1)
    (s : State) (away : List Guard) :
    Acts s away (.op op) (seenOf sights (perform action s).1) (perform action s).2 away := by
  refine ⟨rfl, fun u hu => ⟨hallows u, ?_, ?_⟩⟩
  · rw [hseen, hu.host]
    rfl
  · show (perform action s).2.On (u.step op).2 away
    rw [hstep]
    exact hu.perform hkeeps

theorem acts_request (r : Request) (s : State) (away : List Guard) :
    Acts s away (.op (.request r)) (seenOf (fun reply => [.reply reply]) (perform r.run s).1)
      (perform r.run s).2 away :=
  acts_perform (.request r) r.keepsGuards_run (fun _ => trivial) (fun _ => rfl)
    (fun _ => seenOf_map _ _ _) s away

/-- One that also gives nothing. -/
theorem acts_quiet {action : Action Unit} (op : Op) (hkeeps : Action.KeepsGuards action)
    (hallows : ∀ u : Thread, u.Allows op) (hstep : ∀ u : Thread, u.step op = u.perform action)
    (hresult : ∀ u : Thread, u.resultOf op = (u.step op).1.map fun _ => .done)
    (s : State) (away : List Guard) :
    Acts s away (.op op) (seenOf (fun _ => []) (perform action s).1) (perform action s).2 away := by
  refine acts_perform op hkeeps hallows hstep (fun u => ?_) s away
  show seenOf _ (u.resultOf op) = _
  rw [hresult, hstep, seenOf_map]
  exact seenOf_map _ _ _

theorem acts_emit (record : LogRecord) (s : State) (away : List Guard) :
    Acts s away (.op (.emit record))
      (seenOf (fun _ => []) (perform (Action.emit record.level record.message) s).1)
      (perform (Action.emit record.level record.message) s).2 away :=
  acts_quiet (.emit record) (fun _ => rfl) (fun _ => trivial) (fun _ => rfl) (fun _ => rfl) s away

theorem acts_setListener (l : Listener) (s : State) (away : List Guard) :
    Acts s away (.op (.setListener l)) (seenOf (fun _ => []) (perform (Action.setListener l) s).1)
      (perform (Action.setListener l) s).2 away :=
  acts_quiet (.setListener l) (fun _ => rfl) (fun _ => trivial) (fun _ => rfl) (fun _ => rfl) s away

theorem acts_clearListener (s : State) (away : List Guard) :
    Acts s away (.op .clearListener) (seenOf (fun _ => []) (perform Action.clearListener s).1)
      (perform Action.clearListener s).2 away :=
  acts_quiet .clearListener (fun _ => rfl) (fun _ => trivial) (fun _ => rfl) (fun _ => rfl) s away

theorem acts_drop (g : Guard) (s : State) (away : List Guard) :
    Acts s (g :: away) (.op (.drop g.id)) (seenOf (fun _ => []) (perform (Action.drop g) s).1)
      (perform (Action.drop g) s).2 away := by
  refine ⟨rfl, fun u hu => ?_⟩
  obtain ⟨hallows, hresult, hu'⟩ := hu.drop
  refine ⟨hallows, ?_, hu'⟩
  show seenOf _ ((u.step (.drop g.id)).1.map _) = _
  rw [hresult, seenOf_map, seenOf_map]

theorem acts_forget (g : Guard) (s : State) (away : List Guard) :
    Acts s (g :: away) (.op (.forget g.id)) [] s away :=
  ⟨rfl, fun _ hu => ⟨hu.forget.1, rfl, hu.forget.2⟩⟩

theorem acts_visible (s : State) (away : List Guard) :
    Acts s away .visible (s.host.guards.visible.toList.map .cache) s away :=
  ⟨rfl, fun u hu => ⟨trivial, by rw [← hu.host]; rfl, hu⟩⟩

end HighlightCheck.Session
