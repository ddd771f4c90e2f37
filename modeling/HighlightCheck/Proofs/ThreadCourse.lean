import HighlightCheck.Proofs.ListenerFailure
import Mathlib.Data.List.Nodup

/-!
# What threads come to

A thread acts, and it starts other threads and waits until they end. All of that is acts on threads,
so a process can do it: each thread that is started gets a place of its own in the schedule.

* `Thread.HeldApart`: no two guards that are held have one number. Every operation keeps it
  (`HeldApart.step`), so a guard can be found by its number (`HeldApart.find?_eq`).
* `Thread.Leads`: what a thread comes to by acts, and what there is to see of them.
* `Process.Legal`: a schedule of acts that can be done.
* `Process.exists_reaches_of_leads`: what a thread comes to is what it comes to in a process.
-/

namespace HighlightCheck

namespace Thread

variable {s t u : Thread} {a : Act} {acts acts' : List Act} {os os' : List Outcome} {g : Guard}
  {rest : List Guard}

/-! ## Guards by their numbers -/

/-- No two of the guards that are held have one number, and none has the number of the next one. -/
structure HeldApart (s : Thread) : Prop where
  nodup : (s.held.map (·.id)).Nodup
  id_lt : ∀ g ∈ s.held, g.id < s.host.guards.nextId

theorem heldApart_fresh (files : FileTree) (log : LogSlot) : (fresh files log).HeldApart :=
  ⟨List.nodup_nil, nofun⟩

namespace HeldApart

theorem of_sublist (h : s.HeldApart) (hheld : t.held.Sublist s.held)
    (hnext : t.host.guards.nextId = s.host.guards.nextId) : t.HeldApart where
  nodup := h.nodup.sublist (hheld.map _)
  id_lt g hg := hnext ▸ h.id_lt g (hheld.subset hg)

theorem step_load (h : s.HeldApart) (cache : CommandCache) :
    (s.step (.load cache)).2.HeldApart := by
  have hguards := guards_step_load (s := s) cache
  have hheld := held_step_load (s := s) cache
  cases hr : (s.step (.load cache)).1 with
  | error f =>
    rw [hr] at hheld
    refine ⟨hheld ▸ h.nodup, fun g hg => ?_⟩
    rw [hheld] at hg
    rw [hguards]
    exact Nat.lt_succ_of_lt (h.id_lt g hg)
  | ok _ =>
    rw [hr] at hheld
    dsimp only at hheld
    refine ⟨?_, fun g hg => ?_⟩
    · rw [hheld, List.map_append, List.nodup_append]
      refine ⟨h.nodup, List.nodup_singleton _, fun id hid next hnext => ?_⟩
      obtain ⟨g, hg, rfl⟩ := List.mem_map.mp hid
      rw [List.mem_singleton.mp hnext]
      exact Nat.ne_of_lt (h.id_lt g hg)
    · rw [hguards]
      rw [hheld, List.mem_append, List.mem_singleton] at hg
      rcases hg with hg | rfl
      · exact Nat.lt_succ_of_lt (h.id_lt g hg)
      · exact Nat.lt_succ_self _

theorem step (h : s.HeldApart) (op : Op) : (s.step op).2.HeldApart := by
  obtain ⟨cache, rfl⟩ | ⟨id, rfl⟩ | ⟨hload, hdrop⟩ := op.cases_load_drop
  · exact h.step_load cache
  · refine h.of_sublist (held_step_sublist rfl) ?_
    cases hg : s.find? id with
    | none => simp only [Thread.step, hg]
    | some g =>
      rw [host_step_drop hg, Action.guards_drop]
      rfl
  · exact h.of_sublist (held_step_sublist hload)
      (congrArg GuardStack.nextId (guards_step_of_other hload hdrop))

theorem find?_eq (h : s.HeldApart) (hg : g ∈ s.held) : s.find? g.id = some g := by
  obtain ⟨k, hk⟩ := exists_find?_of_allows_drop (s := s) (List.mem_map_of_mem hg)
  have hmem : k ∈ s.held := List.mem_of_find?_eq_some hk
  rw [hk, List.inj_on_of_nodup_map h.nodup hmem hg (id_of_find?_eq_some hk)]

/-- What is held besides a guard is what is held once it is given up. -/
theorem perm_filter (h : s.HeldApart) (hp : s.held.Perm (g :: rest)) :
    (s.held.filter (·.id != g.id)).Perm rest := by
  have hnodup := (hp.map (·.id)).nodup_iff.mp h.nodup
  rw [List.map_cons, List.nodup_cons] at hnodup
  have hrest : rest.filter (·.id != g.id) = rest := List.filter_eq_self.mpr fun k hk =>
    bne_iff_ne.mpr (ne_of_mem_of_not_mem (List.mem_map_of_mem hk) hnodup.1)
  have hfilter := hp.filter (·.id != g.id)
  rwa [List.filter_cons_of_neg (by simp), hrest] at hfilter

end HeldApart

/-! ## Acts on a thread, and on those that it starts -/

/-- Whether an act can be done. -/
def AllowsAct (s : Thread) : Act → Prop
  | .op op => s.Allows op
  | _ => True

/-- The thread after others have used the log. -/
def withLog (s : Thread) (log : LogSlot) : Thread :=
  { s with host := { s.host with log := log } }

/-- By `acts`, of which `os` is to be seen, `s` becomes `t`. A thread that is started has no guards
and finds the log as it is; it ends before its starter goes on. -/
inductive Leads : Thread → List Act → List Outcome → Thread → Prop
  | nil (s : Thread) : Leads s [] [] s
  | act {s t : Thread} {a : Act} {acts : List Act} {os : List Outcome} (ha : s.AllowsAct a)
      (rest : Leads (s.after a) acts os t) : Leads s (a :: acts) (s.outcome a :: os) t
  | spawn {s t u : Thread} {acts acts' : List Act} {os os' : List Outcome}
      (there : Leads (fresh s.host.files s.host.log) acts os u)
      (rest : Leads (s.withLog u.host.log) acts' os' t) : Leads s (acts ++ acts') (os ++ os') t

namespace Leads

theorem of_act (ha : s.AllowsAct a) : s.Leads [a] [s.outcome a] (s.after a) :=
  .act ha (.nil _)

theorem trans (h : s.Leads acts os t) (h' : t.Leads acts' os' u) :
    s.Leads (acts ++ acts') (os ++ os') u := by
  induction h with
  | nil s => exact h'
  | act ha _ ih => exact .act ha (ih h')
  | spawn there _ _ ih =>
    rw [List.append_assoc, List.append_assoc]
    exact .spawn there (ih h')

theorem files_eq (h : s.Leads acts os t) : t.host.files = s.host.files := by
  induction h with
  | nil s => rfl
  | act _ _ ih => rw [ih, files_after]
  | spawn _ _ _ ih => exact ih

end Leads

/-- No act takes back a delivery. -/
theorem deliveries_prefix_after (s : Thread) (a : Act) :
    s.host.log.deliveries <+: (s.after a).host.log.deliveries := by
  obtain ⟨events, hevents⟩ := s.exists_log_after_eq_replay a
  rw [hevents]
  exact s.host.log.deliveries_prefix_replay events

end Thread

/-! ## The same in a process -/

namespace Process

open Thread (Act Outcome)

section

variable {ι : Type} [DecidableEq ι]

/-- Whether the turns of a schedule can be done one after the other. -/
def Legal (p : Process ι) : List (ι × Act) → Prop
  | [] => True
  | turn :: rest => (p.thread turn.1).AllowsAct turn.2 ∧ (p.step turn).Legal rest

variable {p : Process ι} {first rest : List (ι × Act)}

theorem legal_append_iff : p.Legal (first ++ rest) ↔ p.Legal first ∧ (p.run first).Legal rest := by
  induction first generalizing p with
  | nil => simp [Legal, run]
  | cons turn first ih =>
    show _ ∧ (p.step turn).Legal (first ++ rest) ↔ (_ ∧ _) ∧ ((p.step turn).run first).Legal rest
    rw [ih, and_assoc]

theorem outcomes_append (p : Process ι) (first rest : List (ι × Act)) :
    p.outcomes (first ++ rest) = p.outcomes first ++ (p.run first).outcomes rest := by
  induction first generalizing p with
  | nil => rfl
  | cons turn first ih => exact congrArg _ (ih (p.step turn))

theorem files_run (p : Process ι) (schedule : List (ι × Act)) :
    (p.run schedule).files = p.files := by
  induction schedule generalizing p with
  | nil => rfl
  | cons turn rest ih => exact (ih (p.step turn)).trans (files_step p turn)

end

variable {p : Process Nat} {i n n' : Nat}

/-- From place `n` on, no thread has done anything. -/
def UnusedFrom (p : Process Nat) (n : Nat) : Prop :=
  ∀ k, n ≤ k → p.share k = ⟨.empty, []⟩

theorem UnusedFrom.thread_eq (h : p.UnusedFrom n) : p.thread n = .fresh p.files p.log := by
  rw [thread, h n le_rfl]
  rfl

/-- In the process, thread `i` becomes `t` by `acts`, of which `os` is to be seen. Of the places before
`n`, no other one has a turn, and those from `n'` on stay unused. -/
structure Reaches (p : Process Nat) (i n : Nat) (acts : List Act) (os : List Outcome) (t : Thread)
    (schedule : List (Nat × Act)) (n' : Nat) : Prop where
  legal : p.Legal schedule
  acts : schedule.map (·.2) = acts
  outcomes : (p.outcomes schedule).map (·.2) = os
  thread : (p.run schedule).thread i = t
  share : ∀ k < n, k ≠ i → (p.run schedule).share k = p.share k
  le : n ≤ n'
  unused : (p.run schedule).UnusedFrom n'

/-- **Threads in a process.** What a thread comes to by its acts, and by those of the threads that it
starts, it comes to by turns of a process, of which the same is to be seen. -/
theorem exists_reaches_of_leads {s t : Thread} {acts : List Act} {os : List Outcome}
    (h : s.Leads acts os t) (hs : p.thread i = s) (hi : i < n) (hunused : p.UnusedFrom n) :
    ∃ schedule n', p.Reaches i n acts os t schedule n' := by
  induction h generalizing p i n with
  | nil s => exact ⟨[], n, trivial, rfl, rfl, hs, fun _ _ _ => rfl, le_rfl, hunused⟩
  | @act s t a acts os ha _ ih =>
    subst hs
    have hshare (k : Nat) (hk : k ≠ i) : (p.step (i, a)).share k = p.share k := share_put_of_ne hk _
    obtain ⟨schedule, n', hr⟩ := ih (thread_step_self p i a) hi fun k hk =>
      (hshare k (by omega)).trans (hunused k hk)
    exact ⟨(i, a) :: schedule, n', ⟨ha, hr.legal⟩, congrArg _ hr.acts, congrArg _ hr.outcomes,
      hr.thread, fun k hk hki => (hr.share k hk hki).trans (hshare k hki), hr.le, hr.unused⟩
  | @spawn s t u acts acts' os os' _ _ ihThere ihRest =>
    subst hs
    obtain ⟨first, m, hfirst⟩ := ihThere hunused.thread_eq (Nat.lt_succ_self n) fun k hk =>
      hunused k (by omega)
    -- The starter finds the log as the other thread has left it, and its own guards as they were.
    have hback : (p.run first).thread i = (p.thread i).withLog u.host.log := by
      rw [thread, hfirst.share i (by omega) (by omega), files_run, ← hfirst.thread]
      rfl
    have hle := hfirst.le
    obtain ⟨rest, n', hrest⟩ := ihRest hback (by omega) hfirst.unused
    have hle' := hrest.le
    refine ⟨first ++ rest, n', legal_append_iff.mpr ⟨hfirst.legal, hrest.legal⟩, ?_, ?_, ?_, ?_,
      by omega, ?_⟩
    · rw [List.map_append, hfirst.acts, hrest.acts]
    · rw [outcomes_append, List.map_append, hfirst.outcomes, hrest.outcomes]
    · rw [run_append, hrest.thread]
    · intro k hk hki
      rw [run_append, hrest.share k (by omega) hki, hfirst.share k (by omega) (by omega)]
    · rw [run_append]
      exact hrest.unused

end Process

end HighlightCheck
