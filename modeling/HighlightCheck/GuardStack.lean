import HighlightCheck.CommandCache

/-!
# Guards of a thread

A command cache is visible to tokenizers while a guard for it is active. Guards are numbered in the
order in which they are made, and the one made last decides what is visible. Releasing an active
guard releases every guard made after it; releasing one that is not active does nothing.

* `active_push`, `active_release`: the active guards after each operation.
* `released_eq_zero_iff`: a release does nothing exactly if no active guard has the number.
-/

namespace HighlightCheck

/-- A guard: its number and the cache it was made for. -/
structure Guard where
  id : Nat
  cache : CommandCache

/-- The active guards of a thread, oldest first, and the number of the next one. -/
structure GuardStack where
  active : List Guard
  nextId : Nat

namespace GuardStack

/-- The guards of a thread that has made none. -/
def empty : GuardStack :=
  ⟨[], 0⟩

/-- The guard that is made next for `cache`. -/
def fresh (s : GuardStack) (cache : CommandCache) : Guard :=
  ⟨s.nextId, cache⟩

/-- Makes a guard for `cache` active. -/
def push (s : GuardStack) (cache : CommandCache) : GuardStack :=
  ⟨s.active ++ [s.fresh cache], s.nextId + 1⟩

/-- Releases `g` and every guard made after it, if `g` is active. -/
def release (s : GuardStack) (g : Guard) : GuardStack :=
  { s with active := s.active.takeWhile (·.id != g.id) }

/-- How many guards a release of `g` releases. -/
def released (s : GuardStack) (g : Guard) : Nat :=
  s.active.length - (s.release g).active.length

/-- The cache that tokenizers see. -/
def visible (s : GuardStack) : Option CommandCache :=
  s.active.getLast?.map (·.cache)

/-- Whether a guard is active. -/
def hasActive (s : GuardStack) : Bool :=
  !s.active.isEmpty

@[simp] theorem active_push (s : GuardStack) (cache : CommandCache) :
    (s.push cache).active = s.active ++ [s.fresh cache] := rfl

@[simp] theorem active_release (s : GuardStack) (g : Guard) :
    (s.release g).active = s.active.takeWhile (·.id != g.id) := rfl

theorem length_takeWhile_eq_iff {l : List Guard} {p : Guard → Bool} :
    (l.takeWhile p).length = l.length ↔ ∀ g ∈ l, p g = true := by
  induction l with
  | nil => simp
  | cons g l ih =>
    by_cases h : p g = true
    · simp [h, ih]
    · simp [h]

/-- A list is as far as a condition holds, or there is a first element of which it does not. -/
theorem eq_takeWhile_or (p : Guard → Bool) (l : List Guard) :
    l = l.takeWhile p ∨ ∃ g later, l = l.takeWhile p ++ g :: later ∧ p g = false := by
  have hsplit := List.takeWhile_append_dropWhile (p := p) (l := l)
  cases hdrop : l.dropWhile p with
  | nil =>
    rw [hdrop, List.append_nil] at hsplit
    exact .inl hsplit.symm
  | cons g later =>
    have hfirst := List.head?_dropWhile_not p l
    rw [hdrop] at hsplit hfirst
    exact .inr ⟨g, later, hsplit.symm, by simpa using hfirst⟩

theorem released_eq_zero_iff {s : GuardStack} {g : Guard} :
    s.released g = 0 ↔ ∀ h ∈ s.active, h.id ≠ g.id := by
  have hle := (List.takeWhile_sublist (fun h : Guard => h.id != g.id) (l := s.active)).length_le
  have heq := length_takeWhile_eq_iff (l := s.active) (p := fun h => h.id != g.id)
  simp only [bne_iff_ne] at heq
  rw [← heq, released, active_release]
  omega

end GuardStack

end HighlightCheck
