import HighlightCheck.Session.Request

/-!
# Steps of a session

A session is a sequence of steps on one host. Guards are held in slots, which go by name. A scope
has slots of its own and drops its guards at its end; a thread also has guards of its own, and
shares the log.
-/

namespace HighlightCheck.Session

/-- A step. -/
inductive Step where
  /-- Makes a guard for a cache and puts it into a slot. A guard that was in the slot is dropped
  after that. -/
  | load (slot : String) (cache : CommandCache)
  /-- The same for the cache that tokenizers see, if there is one. -/
  | reload (slot : String)
  /-- Drops the guard in a slot. -/
  | drop (slot : String)
  /-- Takes the guard out of a slot without dropping it. -/
  | forget (slot : String)
  /-- The cache that tokenizers see. -/
  | visible
  /-- What that cache says of a word. -/
  | canRun (word : String)
  /-- Whether a text is the path of a file or folder, if tokenizers see a cache. -/
  | onDisk (text : String)
  /-- What the cache of the guard in a slot says of a word. -/
  | guardCanRun (slot word : String)
  /-- Work on a tokenizer. -/
  | request (r : Request)
  /-- A step that names a kind that does not exist. -/
  | reject (unknown : UnknownKind)
  | setListener (l : Listener)
  | clearListener
  | emit (record : LogRecord)
  /-- Steps with slots of their own; after them the host may end its work with a text. -/
  | scope (steps : List Step) (raise : Option String)
  /-- Steps on a thread of their own. -/
  | thread (steps : List Step)

/-- What there is to say after a step: its result, whether a cache is visible on the thread that
ran it, and the records kept since the last row. -/
structure Row (ρ : Type) where
  result : ρ
  loaded : Bool
  records : List KeptRecord

/-- The result of a step. -/
inductive Result where
  | nothing
  | flag (value : Bool)
  | cache (c : CommandCache)
  | reply (r : Reply)
  | error (e : Error)
  | fault (f : Fault)
  /-- The rows of a scope, and the fault that ended it, if one did. -/
  | scope (rows : List (Row Result)) (fault : Option Fault)
  | thread (rows : List (Row Result))
  /-- The end of a session or thread. -/
  | ended

end HighlightCheck.Session
