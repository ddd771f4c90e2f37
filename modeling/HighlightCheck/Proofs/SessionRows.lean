import HighlightCheck.Proofs.Process
import HighlightCheck.Session.Run

/-!
# What the rows of a session tell

A row tells what its step came to. The same is to be seen of acts on threads, as what they give. Rows
and acts need not match one by one: a step may take several acts, and tells of them as a whole.

* `allRows`: the rows of a session with those of its scopes and threads.
* `Row.sights`, `seen`: what a row tells, and what is to be seen of an act.
* `Conveys`: what is told is what was seen, where at most caches and faults are left out.
-/

namespace HighlightCheck.Session

open Thread (Outcome)

/-- Something to be told of a step, or to be seen of an act. -/
inductive Sight where
  | reply (r : Reply)
  /-- Whether a cache is visible. -/
  | loaded (value : Bool)
  | cache (c : CommandCache)
  | fault (f : Fault)

namespace Sight

/-- Whether no row may leave it out. -/
def isFirm : Sight → Bool
  | reply _ => true
  | loaded _ => true
  | _ => false

def isListenerFault : Sight → Bool
  | fault (.listener _) => true
  | _ => false

end Sight

/-! ## Rows -/

/-- What the result of a step tells. The text with which a host ends a scope comes from no act. -/
def Result.sights : Result → List Sight
  | .reply r => [.reply r]
  | .cache c => [.cache c]
  | .fault f => [.fault f]
  | .scope _ (some (.raised _)) => []
  | .scope _ (some f) => [.fault f]
  | _ => []

def Row.sights (row : Row Result) : List Sight :=
  row.result.sights ++ [.loaded row.loaded]

mutual

/-- The rows of the steps that are part of a step. -/
def Result.inner : Result → List (Row Result)
  | .scope rows _ => allRows rows
  | .thread rows => allRows rows
  | _ => []

def Row.inner : Row Result → List (Row Result)
  | ⟨result, _, _⟩ => result.inner

/-- The rows, and those of the steps that are part of theirs, in the order in which the steps end. -/
def allRows : List (Row Result) → List (Row Result)
  | [] => []
  | row :: rest => row.inner ++ row :: allRows rest

end

theorem allRows_append (first rest : List (Row Result)) :
    allRows (first ++ rest) = allRows first ++ allRows rest := by
  induction first with
  | nil => rfl
  | cons row first ih =>
    show row.inner ++ row :: allRows (first ++ rest) =
      (row.inner ++ row :: allRows first) ++ allRows rest
    rw [ih, List.append_assoc]
    rfl

/-! ## Acts -/

/-- What is to be seen of a result. -/
def seenOf {α : Type} (sights : α → List Sight) : Except Fault α → List Sight
  | .ok a => sights a
  | .error f => [.fault f]

/-- What is to be seen of an act. -/
def seen (o : Outcome) : List Sight :=
  seenOf (fun
    | .reply r => [.reply r]
    | .guard g => [.cache g.cache]
    | .cache c => c.toList.map .cache
    | .flag value => [.loaded value]
    | .done => []) o.result

theorem seenOf_map {α β : Type} (sights : β → List Sight) (f : α → β) (r : Except Fault α) :
    seenOf sights (r.map f) = seenOf (fun a => sights (f a)) r := by
  cases r <;> rfl

/-! ## Telling -/

/-- Nothing is told that was not seen, and all that is firm is told. -/
structure Conveys (told seen : List Sight) : Prop where
  sublist : told.Sublist seen
  firm : told.filter (·.isFirm) = seen.filter (·.isFirm)

namespace Conveys

variable {told told' seen seen' : List Sight}

theorem refl (sights : List Sight) : Conveys sights sights :=
  ⟨List.Sublist.refl _, rfl⟩

theorem trans (h : Conveys told told') (h' : Conveys told' seen) : Conveys told seen :=
  ⟨h.sublist.trans h'.sublist, h.firm.trans h'.firm⟩

theorem append (h : Conveys told seen) (h' : Conveys told' seen') :
    Conveys (told ++ told') (seen ++ seen') where
  sublist := h.sublist.append h'.sublist
  firm := by rw [List.filter_append, List.filter_append, h.firm, h'.firm]

/-- Of what is not firm, anything may be left out. -/
theorem of_sublist (h : told.Sublist seen) (hseen : ∀ x ∈ seen, x.isFirm = false) :
    Conveys told seen where
  sublist := h
  firm := by
    have hnone {sights : List Sight} (hs : ∀ x ∈ sights, x.isFirm = false) :
        sights.filter (·.isFirm) = [] :=
      List.filter_eq_nil_iff.mpr fun x hx => by simp [hs x hx]
    rw [hnone hseen, hnone fun x hx => hseen x (h.subset hx)]

end Conveys

end HighlightCheck.Session
