import HighlightCheck.Proofs.Requests
import Mathlib.Data.List.TakeWhile

/-!
# Actions on a host

What each action does to a host, as one equation per action. The work of an action that ends in a
fault is kept up to there, so the host is given in both cases.

* `bind_apply`: one action after the other.
* `load_apply`, `drop_apply`: a guard that is made or dropped, and the record emitted of it.
* `check_apply`: a check emits the record of its outcome (`Tokenizer.verdict`).
* `Session.Request.keepsGuards_run`: no request changes the guards.
-/

namespace HighlightCheck

namespace Host

/-- The record that is emitted of a new guard for `cache`. -/
def loadRecord (h : Host) (cache : CommandCache) : LogRecord :=
  ⟨.debug, Action.loadMessage (h.guards.fresh cache) (h.guards.push cache).active.length⟩

/-- The record that is emitted of a dropped guard that was active. -/
def releaseRecord (h : Host) (g : Guard) : LogRecord :=
  ⟨.debug, Action.releaseMessage g (h.guards.released g)⟩

end Host

namespace Action

variable {α β : Type}

theorem bind_apply (x : Action α) (f : α → Action β) (h : Host) :
    (x >>= f) h = match x h with
      | (.ok a, h') => f a h'
      | (.error e, h') => (.error e, h') := by
  show (match x h with | (r, h') => ExceptT.bindCont f r h') = _
  rcases x h with ⟨_ | _, _⟩ <;> rfl

@[simp] theorem pure_apply (a : α) (h : Host) : (pure a : Action α) h = (.ok a, h) := rfl

@[simp] theorem get_apply (h : Host) : (get : Action Host) h = (.ok h, h) := rfl

@[simp] theorem set_apply (h h' : Host) : (set h' : Action PUnit) h = (.ok ⟨⟩, h') := rfl

@[simp] theorem throw_apply (e : Fault) (h : Host) : (throw e : Action α) h = (.error e, h) := rfl

@[simp] theorem ofExcept_apply (r : Except Fault α) (h : Host) :
    (ofExcept r : Action α) h = (r, h) := rfl

theorem emit_apply (level : Level) (message : String) (h : Host) :
    emit level message h =
      ((h.log.emit ⟨level, message⟩).1, { h with log := (h.log.emit ⟨level, message⟩).2 }) := rfl

/-! ## Guards -/

/-- The guard is active before its record is emitted, and stays so if that fails. -/
theorem load_apply (cache : CommandCache) (h : Host) :
    load cache h =
      ((h.log.emit (h.loadRecord cache)).1.map fun _ => h.guards.fresh cache,
        { h with guards := h.guards.push cache, log := (h.log.emit (h.loadRecord cache)).2 }) := by
  unfold Host.loadRecord
  simp only [load, bind_apply, get_apply, set_apply, emit_apply]
  rcases h.log.emit ⟨.debug, loadMessage (h.guards.fresh cache)
    (h.guards.push cache).active.length⟩ with ⟨_ | _, _⟩ <;> rfl

/-- A guard is made for the cache that it was asked for. -/
theorem cache_of_load_eq_ok {cache : CommandCache} {h h' : Host} {g : Guard}
    (hload : load cache h = (.ok g, h')) : g.cache = cache := by
  rw [load_apply, Prod.mk.injEq] at hload
  obtain ⟨hresult, -⟩ := hload
  cases hr : (h.log.emit (h.loadRecord cache)).1 with
  | error f => rw [hr] at hresult; cases hresult
  | ok _ => rw [hr] at hresult; cases hresult; rfl

/-- The guards are released before the record is emitted, and stay so if that fails. -/
theorem drop_apply (g : Guard) (h : Host) :
    drop g h =
      if h.guards.released g = 0 then (.ok (), { h with guards := h.guards.release g })
      else ((h.log.emit (h.releaseRecord g)).1,
        { h with guards := h.guards.release g, log := (h.log.emit (h.releaseRecord g)).2 }) := by
  simp only [drop, bind_apply, get_apply, set_apply]
  by_cases hr : h.guards.released g = 0
  · simp [hr]
  · simp [hr, emit_apply, Host.releaseRecord]

/-- The drop of a guard that is not active does nothing. -/
theorem drop_apply_of_inactive {g : Guard} {h : Host}
    (hg : ∀ k ∈ h.guards.active, k.id ≠ g.id) : drop g h = (.ok (), h) := by
  rw [drop_apply, if_pos (GuardStack.released_eq_zero_iff.mpr hg)]
  unfold GuardStack.release
  rw [List.takeWhile_eq_self_iff.mpr fun k hk => bne_iff_ne.mpr (hg k hk)]

theorem guards_drop (g : Guard) (h : Host) : (drop g h).2.guards = h.guards.release g := by
  rw [drop_apply]
  split <;> rfl

/-! ## Actions that leave the guards alone -/

/-- An action after which the guards are as before, also if it ends in a fault. -/
def KeepsGuards (x : Action α) : Prop :=
  ∀ h, (x h).2.guards = h.guards

theorem KeepsGuards.bind {x : Action α} {f : α → Action β} (hx : KeepsGuards x)
    (hf : ∀ a, KeepsGuards (f a)) : KeepsGuards (x >>= f) := by
  intro h
  have hxh := hx h
  rw [bind_apply]
  rcases hr : x h with ⟨e | a, h'⟩
  · rw [hr] at hxh
    exact hxh
  · rw [hr] at hxh
    exact (hf a h').trans hxh

theorem composes_keepsGuards : Composes KeepsGuards where
  pure _ _ := rfl
  bind := KeepsGuards.bind
  read _ hf h := hf h h
  emit _ _ _ := rfl
  report _ _ := rfl
  unmatched _ _ := rfl

end Action

/-! ## Checks and requests -/

namespace Tokenizer

open HighlightCheck.Action

/-- The record of a check of `tokens`. -/
def verdict (t : Tokenizer) (code : String) (expected : List Span) (tokens : List Token) :
    LogRecord :=
  match Mismatch.compare code tokens expected with
  | .ok _ => ⟨.debug, t.passMessage code expected.length tokens.length⟩
  | .error f => ⟨.warn, t.failMessage f⟩

theorem check_apply {t : Tokenizer} {code : String} {expected : List Span} {h : Host}
    {tokens : List Token} (ht : t.tokenize h.setting code = .ok tokens) :
    t.check code expected h =
      ((h.log.emit (t.verdict code expected tokens)).1.map fun _ =>
          Mismatch.compare code tokens expected,
        { h with log := (h.log.emit (t.verdict code expected tokens)).2 }) := by
  simp only [check, bind_apply, get_apply, ofExcept_apply, ht]
  unfold verdict
  cases Mismatch.compare code tokens expected with
  | ok _ =>
    simp only [bind_apply, emit_apply]
    rcases h.log.emit ⟨.debug, t.passMessage code expected.length tokens.length⟩ with ⟨_ | _, _⟩ <;>
      rfl
  | error f =>
    simp only [bind_apply, emit_apply]
    rcases h.log.emit ⟨.warn, t.failMessage f⟩ with ⟨_ | _, _⟩ <;> rfl

/-- Without tokens there is no check. -/
theorem check_apply_of_error {t : Tokenizer} {code : String} {expected : List Span} {h : Host}
    {f : Fault} (ht : t.tokenize h.setting code = .error f) :
    t.check code expected h = (.error f, h) := by
  simp only [check, bind_apply, get_apply, ofExcept_apply, ht]

end Tokenizer

namespace Session.Request

/-- A request changes no guard, whatever it asks for and however it ends. -/
theorem keepsGuards_run (r : Request) : Action.KeepsGuards r.run :=
  Action.composes_keepsGuards.run r fun _ _ _ => rfl

end Session.Request

end HighlightCheck
