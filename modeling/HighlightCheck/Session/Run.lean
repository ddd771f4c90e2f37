import HighlightCheck.Session.Step

/-!
# Runs of sessions

`Session.run` does the steps of a session one after the other and gives a row for each, and one for
its end. A fault ends its step and nothing else.
-/

namespace HighlightCheck.Session

/-- The guards in slots, in the order in which the slots were filled. -/
abbrev Slots := List (String × Guard)

namespace Slots

/-- The guard in a slot. -/
def guard? (slots : Slots) (name : String) : Option Guard :=
  slots.lookup name

/-- Puts a guard into a slot. A slot that held one keeps its place in the order. -/
def put (slots : Slots) (name : String) (g : Guard) : Slots :=
  if slots.any (·.1 == name) then
    slots.map fun slot => if slot.1 == name then (name, g) else slot
  else slots ++ [(name, g)]

/-- Empties a slot. -/
def remove (slots : Slots) (name : String) : Slots :=
  slots.filter (·.1 != name)

/-- The guards held, newest slot first. -/
def held (slots : Slots) : List Guard :=
  (slots.map (·.2)).reverse

end Slots

/-- The state of a session. -/
structure State where
  host : Host
  slots : Slots
  /-- How many deliveries earlier rows have told of. -/
  reported : Nat

/-- Runs an action on the host. -/
def perform {α : Type} (action : Action α) : StateM State (Except Fault α) := fun s =>
  let (result, host) := action s.host
  (result, { s with host := host })

/-- The row for a result: the records are those kept since the last row. -/
def finish (result : Result) : StateM State (Row Result) := fun s =>
  let deliveries := s.host.log.deliveries
  let records := (deliveries.drop s.reported).filterMap (·.kept?)
  (⟨result, s.host.guards.hasActive, records⟩, { s with reported := deliveries.length })

/-- Makes a guard for `cache` and puts it into a slot. The guard that was there is dropped last, so
the slot holds the new one even if that drop ends in a fault. -/
def fill (slot : String) (cache : CommandCache) : StateM State (Except Fault Unit) := do
  match ← perform (Action.load cache) with
  | .error f => return .error f
  | .ok g =>
    let old := (← get).slots.guard? slot
    modify fun s => { s with slots := s.slots.put slot g }
    match old with
    | none => return .ok ()
    | some old => perform (Action.drop old)

/-- Takes the guard out of a slot. -/
def take (slot : String) : StateM State (Option Guard) := do
  let g := (← get).slots.guard? slot
  modify fun s => { s with slots := s.slots.remove slot }
  return g

/-- Drops the guards one after the other, and gives the first fault of a drop. -/
def dropAll : List Guard → StateM State (Option Fault)
  | [] => return none
  | g :: rest => do
    let first := match ← perform (Action.drop g) with
      | .ok _ => none
      | .error f => some f
    return first.or (← dropAll rest)

/-- Drops every guard in a slot, newest slot first, and leaves no slot. -/
def dropSlots : StateM State (Option Fault) := do
  let held := (← get).slots.held
  modify fun s => { s with slots := [] }
  dropAll held

/-- The row for the end of a session or thread. -/
def finishAll : StateM State (Row Result) := do
  match ← dropSlots with
  | none => finish .ended
  | some f => finish (.fault f)

/-- The row for the result of an action. -/
def finishWith {α : Type} (result : α → Result) (outcome : Except Fault α) :
    StateM State (Row Result) :=
  match outcome with
  | .ok value => finish (result value)
  | .error f => finish (.fault f)

mutual

/-- Does a step. -/
def runStep : Step → StateM State (Row Result)
  | .load slot cache => do
    finishWith (fun _ => .cache cache) (← fill slot cache)
  | .reload slot => do
    match (← get).host.guards.visible with
    | none => finish (.flag false)
    | some cache => finishWith (fun _ => .flag true) (← fill slot cache)
  | .drop slot => do
    match ← take slot with
    | none => finish (.flag false)
    | some g => finishWith (fun _ => .flag true) (← perform (Action.drop g))
  | .forget slot => do
    finish (.flag (← take slot).isSome)
  | .visible => do
    match (← get).host.guards.visible with
    | none => finish .nothing
    | some cache => finish (.cache cache)
  | .canRun word => do
    let host := (← get).host
    match host.guards.visible with
    | none => finish .nothing
    | some cache => finish (.flag (cache.canRun host.files word))
  | .onDisk text => do
    let host := (← get).host
    match host.guards.visible with
    | none => finish .nothing
    | some _ => finish (.flag (host.files.has text))
  | .guardCanRun slot word => do
    let s ← get
    match s.slots.guard? slot with
    | none => finish .nothing
    | some g => finish (.flag (g.cache.canRun s.host.files word))
  | .request r => do
    finishWith .reply (← perform r.run)
  | .reject unknown => finish (.error (.unknownKind unknown))
  | .setListener l => do
    finishWith (fun _ => .nothing) (← perform (Action.setListener l))
  | .clearListener => do
    finishWith (fun _ => .nothing) (← perform Action.clearListener)
  | .emit record => do
    finishWith (fun _ => .nothing) (← perform (Action.emit record.level record.message))
  | .scope steps raise => do
    let outer := (← get).slots
    modify fun s => { s with slots := [] }
    let rows ← runSteps steps
    let dropped ← dropSlots
    modify fun s => { s with slots := outer }
    finish (.scope rows ((raise.map .raised).or dropped))
  | .thread steps => do
    let outer ← get
    modify fun s => { s with host := { s.host with guards := .empty }, slots := [] }
    let rows ← runSteps steps
    let last ← finishAll
    modify fun s =>
      { s with host := { s.host with guards := outer.host.guards }, slots := outer.slots }
    finish (.thread (rows ++ [last]))

/-- Does steps one after the other. -/
def runSteps : List Step → StateM State (List (Row Result))
  | [] => return []
  | step :: rest => do
    let row ← runStep step
    return row :: (← runSteps rest)

end

/-- Does the steps of a session over a tree of files. -/
def run (files : FileTree) (steps : List Step) : List (Row Result) :=
  let start : State := ⟨Host.fresh files, [], 0⟩
  let (rows, s) := runSteps steps start
  rows ++ [(finishAll s).1]

end HighlightCheck.Session
