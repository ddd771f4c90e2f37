import HighlightCheck.Registry
import HighlightCheck.Session.Request

/-!
# Runs of a registry

Steps on one registry, one after the other: registrations, and work asked of the tokenizer that a
name finds. That work is done on a fresh host without files, and nobody listens. A step that cannot
be done stops the run, and there are no rows then.

* `length_of_run_eq_ok`: a run that is not stopped gives a row for each step.
-/

namespace HighlightCheck.Registry

/-- A step. -/
inductive Step where
  | register (t : Tokenizer)
  /-- Work on the tokenizer that `name` finds, if it finds one. -/
  | ask (name : String) (request : Tokenizer → Session.Request)
  /-- A step that names a kind that does not exist. -/
  | reject (unknown : UnknownKind)

/-- What stops a run. -/
inductive Stop where
  | unknownKind (unknown : UnknownKind)
  | fault (f : Fault)

/-- What there is to say after a step: the reply, if a tokenizer gave one, and the registry's
size. -/
structure Row where
  reply : Option Session.Reply
  size : Nat
  isEmpty : Bool

/-- The registry after a step. -/
def after (r : Registry) : Step → Registry
  | .register t => r.register t
  | _ => r

/-- The reply to a step, if there is a tokenizer to give one. -/
def reply (r : Registry) : Step → Except Stop (Option Session.Reply)
  | .register _ => .ok none
  | .ask name request =>
    match r.find? name with
    | none => .ok none
    | some t =>
      match ((request t).run (Host.fresh .empty)).1 with
      | .ok reply => .ok (some reply)
      | .error f => .error (.fault f)
  | .reject unknown => .error (.unknownKind unknown)

/-- Does the steps, and gives a row for each. -/
def run (r : Registry) : List Step → Except Stop (List Row)
  | [] => .ok []
  | step :: rest =>
    match r.reply step with
    | .error stop => .error stop
    | .ok reply =>
      let next := r.after step
      (run next rest).map (⟨reply, next.size, next.isEmpty⟩ :: ·)

theorem length_of_run_eq_ok {r : Registry} {steps : List Step} {rows : List Row}
    (h : r.run steps = .ok rows) : rows.length = steps.length := by
  induction steps generalizing r rows with
  | nil => cases h; rfl
  | cons step rest ih =>
    unfold run at h
    split at h
    · cases h
    · cases hrest : run (r.after step) rest with
      | error stop => simp [hrest, Except.map] at h
      | ok restRows =>
        simp only [hrest, Except.map] at h
        cases h
        simp [ih hrest]

end HighlightCheck.Registry
