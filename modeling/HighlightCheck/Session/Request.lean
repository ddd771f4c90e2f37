import HighlightCheck.Check

/-!
# Requests

Work on a tokenizer that a session can ask for, and the replies.
-/

namespace HighlightCheck.Session

/-- Work on a tokenizer. -/
inductive Request where
  /-- The tokens and spans of a code. -/
  | stream (t : Tokenizer) (code : String)
  /-- The spans of a code. -/
  | spans (t : Tokenizer) (code : String)
  /-- A check. -/
  | check (t : Tokenizer) (code : String) (expected : List Span)
  /-- A check whose failure is an error. -/
  | attempt (t : Tokenizer) (code : String) (expected : List Span)
  /-- A check whose failure is a fault. -/
  | assert (t : Tokenizer) (code : String) (expected : List Span)
  /-- A table of checks. -/
  | cases (t : Tokenizer) (cases : List Case)

/-- What a request gives. -/
inductive Reply where
  | stream (name : String) (aliases : List String) (tokens : List Token) (spans : List Span)
  | spans (name : String) (aliases : List String) (spans : List Span)
  | passed
  | mismatch (failure : Mismatch)
  | error (e : Error)
  | failures (failures : List (String × Mismatch))

namespace Request

/-- Does what is asked. -/
def run : Request → Action Reply
  | stream t code => do
    let h ← get
    let tokens ← Action.ofExcept (t.tokenize h.setting code)
    let spans ← Action.ofExcept (t.spans h.setting code)
    return .stream t.name t.aliases tokens spans
  | spans t code => do
    let h ← get
    let spans ← Action.ofExcept (t.spans h.setting code)
    return .spans t.name t.aliases spans
  | check t code expected => do
    match ← t.check code expected with
    | .ok _ => return .passed
    | .error f => return .mismatch f
  | attempt t code expected => do
    match ← t.attempt code expected with
    | .ok _ => return .passed
    | .error e => return .error e
  | assert t code expected => do
    t.assert code expected
    return .passed
  | cases t table => return .failures (← t.checkAll table)

/-- Does what is asked on a fresh host without files, and gives what a listener keeps of it beside
the reply. -/
def runAlone (r : Request) : Except Fault Reply × List KeptRecord :=
  let host := Host.fresh .empty
  let listener := Listener.collector none .debug none
  let (reply, host) := r.run { host with log := host.log.set listener }
  (reply, host.log.deliveries.filterMap (·.kept?))

end Request

end HighlightCheck.Session
