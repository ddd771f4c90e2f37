import HighlightCheck.Session.Request

/-!
# What holds of every request

A request is put together of a few actions: it looks at what tokenizers see, asks one of them for
tokens, and emits records. A property that these actions have, and that goes over to actions that are
done one after the other, is one of all requests.

* `Action.Composes`: such a property.
* `Action.Composes.run`: a request has it.
-/

namespace HighlightCheck

namespace Session.Request

/-- The tokenizer that is asked. -/
def tokenizer : Request → Tokenizer
  | stream t _ => t
  | spans t _ => t
  | check t _ _ => t
  | attempt t _ _ => t
  | assert t _ _ => t
  | cases t _ => t

end Session.Request

namespace Action

/-- A property of actions that goes over to actions in sequence, and holds of those that a request is
put together of. Nothing is said of actions that ask a tokenizer. -/
structure Composes (P : ∀ {α : Type}, Action α → Prop) : Prop where
  pure : ∀ {α : Type} (a : α), P (pure a : Action α)
  bind : ∀ {α β : Type} {x : Action α} {f : α → Action β}, P x → (∀ a, P (f a)) → P (x >>= f)
  /-- The host is read for what tokenizers see of it. -/
  read : ∀ {α : Type} {f : Host → Action α},
    (∀ h h', h'.setting = h.setting → f h' = f h) → (∀ h, P (f h)) → P (get >>= f)
  emit : ∀ level message, P (emit level message)
  report : ∀ f : Mismatch, P (ofExcept f.report)
  unmatched : ∀ {α : Type} (report : String), P (throw (.unmatched report) : Action α)

namespace Composes

variable {P : ∀ {α : Type}, Action α → Prop} {α β : Type} {t : Tokenizer}

theorem filterMapM (hP : Composes P) {f : α → Action (Option β)} (hf : ∀ a, P (f a)) (l : List α) :
    P (l.filterMapM f) := by
  induction l with
  | nil => exact hP.pure []
  | cons a l ih =>
    rw [List.filterMapM_cons]
    refine hP.bind (hf a) fun b => ?_
    cases b with
    | none => exact ih
    | some b => exact hP.bind ih fun bs => hP.pure (b :: bs)

/-- The spans of a code are its tokens, each resolved. -/
theorem spans (hP : Composes P) (ht : ∀ setting code, P (ofExcept (t.tokenize setting code)))
    (setting : Setting) (code : String) : P (ofExcept (t.spans setting code)) := by
  have hbind : (ofExcept (t.spans setting code) : Action (List Span)) =
      ofExcept (t.tokenize setting code) >>= fun tokens => Pure.pure (Token.resolveAll code tokens) := by
    unfold Tokenizer.spans
    cases t.tokenize setting code <;> rfl
  rw [hbind]
  exact hP.bind (ht setting code) fun tokens => hP.pure _

theorem check (hP : Composes P) (ht : ∀ setting code, P (ofExcept (t.tokenize setting code)))
    (code : String) (expected : List Span) : P (t.check code expected) := by
  refine hP.read (fun h h' hs => by rw [hs]) fun h => hP.bind (ht _ _) fun tokens => ?_
  dsimp only
  split
  · exact hP.bind (hP.emit _ _) fun _ => hP.pure _
  · exact hP.bind (hP.emit _ _) fun _ => hP.pure _

theorem assert (hP : Composes P) (ht : ∀ setting code, P (ofExcept (t.tokenize setting code)))
    (code : String) (expected : List Span) : P (t.assert code expected) := by
  refine hP.bind (hP.check ht code expected) fun outcome => ?_
  split
  · exact hP.pure _
  · exact hP.bind (hP.report _) fun _ => hP.unmatched _

theorem checkAll (hP : Composes P) (ht : ∀ setting code, P (ofExcept (t.tokenize setting code)))
    (cases : List Case) : P (t.checkAll cases) := by
  refine hP.filterMapM (fun c => ?_) cases
  refine hP.bind (hP.check ht c.code c.expected) fun outcome => ?_
  split <;> exact hP.pure _

/-- A property that composes holds of a request, if it holds of asking the request's tokenizer. -/
theorem run (hP : Composes P) (r : Session.Request)
    (ht : ∀ setting code, P (ofExcept (r.tokenizer.tokenize setting code))) : P r.run := by
  cases r with
  | stream t code =>
    refine hP.read (fun h h' hs => by rw [hs]) fun h => hP.bind (ht _ _) fun _ => ?_
    exact hP.bind (hP.spans ht _ _) fun _ => hP.pure _
  | spans t code =>
    refine hP.read (fun h h' hs => by rw [hs]) fun h => ?_
    exact hP.bind (hP.spans ht _ _) fun _ => hP.pure _
  | check t code expected =>
    refine hP.bind (hP.check ht code expected) fun outcome => ?_
    split <;> exact hP.pure _
  | attempt t code expected =>
    refine hP.bind (hP.bind (hP.check ht code expected) fun _ => hP.pure _) fun outcome => ?_
    split <;> exact hP.pure _
  | assert t code expected => exact hP.bind (hP.assert ht code expected) fun _ => hP.pure _
  | cases t table => exact hP.bind (hP.checkAll ht table) fun _ => hP.pure _

end Composes

end Action

end HighlightCheck
