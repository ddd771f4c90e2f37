import HighlightCheck.Proofs.Action

/-!
# Threads

What the owner of guards can do on one thread, one operation after the other: make guards, drop or
forget those it holds, and everything that changes no guard. An operation that ends in a fault has
changed what it changed before, and the thread goes on.

* `guards_step_load`, `guards_step_drop`, `guards_step_of_other`: what a step does to the guards.
* `held_step_load`, `held_step_drop`: what it does to the guards that are held.
* `run_concat`, `legal_concat_iff`: a run, taken apart at its last operation.
-/

namespace HighlightCheck

/-- A thread: its host, and the guards that were made on it and are held by somebody. -/
structure Thread where
  host : Host
  held : List Guard

namespace Thread

/-- An operation. -/
inductive Op where
  /-- Makes a guard for a cache, be it a new one or the one that tokenizers see. -/
  | load (cache : CommandCache)
  /-- Drops the guard with a number. -/
  | drop (id : Nat)
  /-- Gives the guard with a number away without dropping it. -/
  | forget (id : Nat)
  /-- Work on a tokenizer. -/
  | request (r : Session.Request)
  | emit (record : LogRecord)
  | setListener (l : Listener)
  | clearListener

namespace Op

/-- The cache that a guard is made for. -/
def cache? : Op → Option CommandCache
  | load cache => some cache
  | _ => none

/-- The number of the guard that is dropped. -/
def dropped? : Op → Option Nat
  | drop id => some id
  | _ => none

theorem cases_load_drop (op : Op) :
    (∃ cache, op = load cache) ∨ (∃ id, op = drop id) ∨ op.cache? = none ∧ op.dropped? = none := by
  cases op with
  | load cache => exact .inl ⟨cache, rfl⟩
  | drop id => exact .inr (.inl ⟨id, rfl⟩)
  | _ => exact .inr (.inr ⟨rfl, rfl⟩)

end Op

/-- A thread on which no guard was made yet. Others may have used the log. -/
def fresh (files : FileTree) (log : LogSlot) : Thread :=
  ⟨⟨files, .empty, log⟩, []⟩

/-- Runs an action that makes and drops no guard of its own. -/
def perform {α : Type} (s : Thread) (action : Action α) : Except Fault Unit × Thread :=
  ((action s.host).1.map fun _ => (), { s with host := (action s.host).2 })

/-- The guard with a number, if it is held. -/
def find? (s : Thread) (id : Nat) : Option Guard :=
  s.held.find? (·.id == id)

/-- The guard with a number is held no more. -/
def giveUp (s : Thread) (id : Nat) : Thread :=
  { s with held := s.held.filter (·.id != id) }

/-- Does an operation. A guard whose making ends in a fault is given to nobody; one whose drop ends
in a fault is dropped. -/
def step (s : Thread) : Op → Except Fault Unit × Thread
  | .load cache =>
    match Action.load cache s.host with
    | (.ok g, host) => (.ok (), ⟨host, s.held ++ [g]⟩)
    | (.error f, host) => (.error f, ⟨host, s.held⟩)
  | .drop id =>
    match s.find? id with
    | none => (.ok (), s)
    | some g => (s.giveUp id).perform (Action.drop g)
  | .forget id => (.ok (), s.giveUp id)
  | .request r => s.perform r.run
  | .emit record => s.perform (Action.emit record.level record.message)
  | .setListener l => s.perform (Action.setListener l)
  | .clearListener => s.perform Action.clearListener

/-- Does operations one after the other. -/
def run (s : Thread) (ops : List Op) : Thread :=
  ops.foldl (fun s op => (s.step op).2) s

/-- Whether an operation can be done: a guard that is dropped or forgotten must be held. -/
def Allows (s : Thread) : Op → Prop
  | .drop id => id ∈ s.held.map (·.id)
  | .forget id => id ∈ s.held.map (·.id)
  | _ => True

/-- Whether operations can be done one after the other. -/
def Legal (s : Thread) : List Op → Prop
  | [] => True
  | op :: rest => s.Allows op ∧ (s.step op).2.Legal rest

instance decidableAllows (s : Thread) : (op : Op) → Decidable (s.Allows op)
  | .drop id => inferInstanceAs (Decidable (id ∈ s.held.map (·.id)))
  | .forget id => inferInstanceAs (Decidable (id ∈ s.held.map (·.id)))
  | .load _ | .request _ | .emit _ | .setListener _ | .clearListener => isTrue trivial

instance decidableLegal (s : Thread) : (ops : List Op) → Decidable (s.Legal ops)
  | [] => isTrue trivial
  | op :: rest =>
    have := decidableLegal (s.step op).2 rest
    inferInstanceAs (Decidable (s.Allows op ∧ (s.step op).2.Legal rest))

variable {s : Thread} {ops : List Op} {op : Op}

/-! ## Runs -/

@[simp] theorem run_nil (s : Thread) : s.run [] = s := rfl

theorem run_append (s : Thread) (first rest : List Op) :
    s.run (first ++ rest) = (s.run first).run rest :=
  List.foldl_append

@[simp] theorem run_concat (s : Thread) (ops : List Op) (op : Op) :
    s.run (ops ++ [op]) = ((s.run ops).step op).2 := by
  simp [run]

theorem legal_append_iff {first rest : List Op} :
    s.Legal (first ++ rest) ↔ s.Legal first ∧ (s.run first).Legal rest := by
  induction first generalizing s with
  | nil => simp [Legal]
  | cons op first ih =>
    show s.Allows op ∧ (s.step op).2.Legal (first ++ rest) ↔
      (s.Allows op ∧ (s.step op).2.Legal first) ∧ ((s.step op).2.run first).Legal rest
    rw [ih, and_assoc]

theorem legal_concat_iff : s.Legal (ops ++ [op]) ↔ s.Legal ops ∧ (s.run ops).Allows op := by
  rw [legal_append_iff]
  simp [Legal]

/-! ## What a step does -/

theorem guards_perform {α : Type} {action : Action α} (h : Action.KeepsGuards action) :
    (s.perform action).2.host.guards = s.host.guards :=
  h s.host

/-- The record of a new guard decides whether somebody gets the guard. -/
theorem step_load (cache : CommandCache) :
    s.step (.load cache) =
      ((s.host.log.emit (s.host.loadRecord cache)).1,
        { host :=
            { s.host with
              guards := s.host.guards.push cache
              log := (s.host.log.emit (s.host.loadRecord cache)).2 }
          held := match (s.host.log.emit (s.host.loadRecord cache)).1 with
            | .ok _ => s.held ++ [s.host.guards.fresh cache]
            | .error _ => s.held }) := by
  show (match Action.load cache s.host with
    | (.ok g, host) => ((.ok (), ⟨host, s.held ++ [g]⟩) : Except Fault Unit × Thread)
    | (.error f, host) => (.error f, ⟨host, s.held⟩)) = _
  rw [Action.load_apply]
  cases (s.host.log.emit (s.host.loadRecord cache)).1 <;> rfl

/-- A new guard is active, also if its making ends in a fault. -/
theorem guards_step_load (cache : CommandCache) :
    (s.step (.load cache)).2.host.guards = s.host.guards.push cache := by
  rw [step_load]

/-- A new guard is held exactly if its making does not end in a fault. -/
theorem held_step_load (cache : CommandCache) :
    (s.step (.load cache)).2.held =
      match (s.step (.load cache)).1 with
      | .ok _ => s.held ++ [s.host.guards.fresh cache]
      | .error _ => s.held := by
  rw [step_load]

theorem id_of_find?_eq_some {id : Nat} {g : Guard} (h : s.find? id = some g) : g.id = id :=
  beq_iff_eq.mp (List.find?_some (p := fun g : Guard => g.id == id) h)

theorem exists_find?_of_allows_drop {id : Nat} (h : s.Allows (.drop id)) :
    ∃ g, s.find? id = some g := by
  obtain ⟨g, hg, hid⟩ := List.mem_map.mp h
  exact Option.isSome_iff_exists.mp (List.find?_isSome.mpr ⟨g, hg, beq_iff_eq.mpr hid⟩)

/-- A drop releases by the number of the guard. -/
theorem guards_step_drop {id : Nat} (h : s.Allows (.drop id)) :
    ∃ g : Guard, g.id = id ∧ (s.step (.drop id)).2.host.guards = s.host.guards.release g := by
  obtain ⟨g, hg⟩ := exists_find?_of_allows_drop h
  refine ⟨g, id_of_find?_eq_some hg, ?_⟩
  rw [← Action.guards_drop]
  simp only [step, hg]
  rfl

theorem held_step_drop (id : Nat) :
    (s.step (.drop id)).2.held = s.held.filter (·.id != id) := by
  cases hg : s.find? id with
  | none =>
    simp only [step, hg]
    refine (List.filter_eq_self.mpr fun g hmem => ?_).symm
    have hne := List.find?_eq_none.mp hg g hmem
    rwa [beq_iff_eq, ← ne_eq, ← bne_iff_ne] at hne
  | some g =>
    simp only [step, hg]
    rfl

/-- A guard that is not active can be dropped without any effect on the host. -/
theorem step_drop_of_inactive {id : Nat} (h : ∀ g ∈ s.host.guards.active, g.id ≠ id) :
    (s.step (.drop id)).1 = .ok () ∧ (s.step (.drop id)).2.host = s.host := by
  cases hg : s.find? id with
  | none =>
    have hstep : s.step (.drop id) = (.ok (), s) := by
      simp only [step, hg]
    rw [hstep]
    exact ⟨rfl, rfl⟩
  | some g =>
    rw [← id_of_find?_eq_some hg] at h
    have hdrop : Action.drop g (s.giveUp id).host = (.ok (), s.host) :=
      Action.drop_apply_of_inactive h
    have hstep : s.step (.drop id) = (.ok (), s.giveUp id) := by
      simp only [step, hg, perform, hdrop]
      rfl
    rw [hstep]
    exact ⟨rfl, rfl⟩

theorem guards_step_of_other (hload : op.cache? = none) (hdrop : op.dropped? = none) :
    (s.step op).2.host.guards = s.host.guards := by
  cases op with
  | load cache => cases hload
  | drop id => cases hdrop
  | forget id => rfl
  | request r => exact guards_perform r.keepsGuards_run
  | emit record => rfl
  | setListener l => rfl
  | clearListener => rfl

theorem held_step_of_other (hload : op.cache? = none) (hdrop : op.dropped? = none)
    (hforget : ∀ id, op ≠ .forget id) : (s.step op).2.held = s.held := by
  cases op with
  | load cache => cases hload
  | drop id => cases hdrop
  | forget id => exact absurd rfl (hforget id)
  | _ => rfl

/-- Whatever makes no guard leaves nobody with a guard that was not held before. -/
theorem held_step_sublist (hload : op.cache? = none) :
    (s.step op).2.held.Sublist s.held := by
  cases op with
  | load cache => cases hload
  | drop id =>
    rw [held_step_drop]
    exact List.filter_sublist
  | forget id => exact List.filter_sublist
  | _ => exact List.Sublist.refl s.held

end Thread

end HighlightCheck
