import HighlightCheck.GuardStack
import HighlightCheck.Log
import HighlightCheck.Tokenizer

/-!
# Hosts

What operations work on: the files, the guards of the thread that runs them, and the log slot that
all threads share. An `Action` changes these, and gives a result or ends in a fault; what it
changed before a fault stays changed.

Making and dropping a guard emits a record after the guards have changed. So when the listener
fails on the record of a new guard, the guard is active but nobody holds it.
-/

namespace HighlightCheck

/-- What operations of a thread work on. -/
structure Host where
  files : FileTree
  guards : GuardStack
  log : LogSlot

/-- An operation on a host. -/
abbrev Action (α : Type) : Type :=
  ExceptT Fault (StateM Host) α

namespace Host

/-- A host on which nothing has been done. -/
def fresh (files : FileTree) : Host :=
  ⟨files, .empty, .empty⟩

/-- What tokenizers see of the host. -/
def setting (h : Host) : Setting :=
  ⟨h.guards.visible, h.files⟩

end Host

namespace Action

/-- Gives a result that is already known, or ends in its fault. -/
def ofExcept {α : Type} (result : Except Fault α) : Action α :=
  ExceptT.mk (pure result)

/-- Emits a record. -/
def emit (level : Level) (message : String) : Action Unit := fun h =>
  let (result, log) := h.log.emit ⟨level, message⟩
  (result, { h with log := log })

/-- The message about a new guard, with the number of guards that are active then. -/
def loadMessage (g : Guard) (depth : Nat) : String :=
  "builtins " ++ toString g.id ++ " loaded (depth " ++ toString depth ++ ", " ++
    toString g.cache.commands.size ++ " commands, " ++ toString g.cache.aliases.size ++
    " aliases, " ++ toString g.cache.path.length ++ " path dirs)"

/-- The message about a dropped guard, with the number of guards that were released. -/
def releaseMessage (g : Guard) (count : Nat) : String :=
  "builtins " ++ toString g.id ++ " released (" ++ toString count ++ " entries)"

/-- Makes a guard for `cache`. -/
def load (cache : CommandCache) : Action Guard := do
  let h ← get
  let g := h.guards.fresh cache
  let guards := h.guards.push cache
  set { h with guards := guards }
  emit .debug (loadMessage g guards.active.length)
  return g

/-- Drops a guard. Nothing is emitted for one that is not active. -/
def drop (g : Guard) : Action Unit := do
  let h ← get
  let count := h.guards.released g
  set { h with guards := h.guards.release g }
  if count != 0 then
    emit .debug (releaseMessage g count)

/-- Sets a listener. -/
def setListener (l : Listener) : Action Unit :=
  modify fun h => { h with log := h.log.set l }

/-- Leaves no listener set. -/
def clearListener : Action Unit :=
  modify fun h => { h with log := h.log.clear }

end Action

end HighlightCheck
