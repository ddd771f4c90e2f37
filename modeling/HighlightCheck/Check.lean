import HighlightCheck.Error
import HighlightCheck.Host
import HighlightCheck.Subsequence

/-!
# Checks

A check says which spans the tokens of a code must hold, in which order; others may stand between
them. It passes, or says which expected span is missing (`Mismatch`), and emits one record of
the outcome.

* `compare_ok_iff`, `compare_error_iff`: a check of given tokens in terms of the search for the
  expected spans.
-/

namespace HighlightCheck

namespace Mismatch

/-- The byte at which a search began that had passed so many of `tokens`: the end of the last one
passed. -/
def searchOffsetAfter (tokens : List Token) : (passed : Nat) → Nat
  | 0 => 0
  | passed + 1 => (tokens[passed]?.map (·.stop)).getD 0

/-- What there is to say when a search of the spans of `tokens` stopped at `m`. -/
def ofMissing (code : String) (tokens : List Token) (expected : List Span)
    (m : Missing) : Mismatch where
  code := code
  missing := expected.getD m.expectedIndex .unresolved
  expectedIndex := m.expectedIndex
  expectedCount := expected.length
  searchOffset := searchOffsetAfter tokens m.passed
  actual := Token.resolveAll code tokens

/-- Looks for the spans of `expected` in those of `tokens`, in order. -/
def compare (code : String) (tokens : List Token) (expected : List Span) : Except Mismatch Unit :=
  match Subsequence.find (· == ·) (Token.resolveAll code tokens) expected with
  | .ok _ => .ok ()
  | .error m => .error (ofMissing code tokens expected m)

theorem compare_ok_iff {code : String} {tokens : List Token} {expected : List Span} :
    compare code tokens expected = .ok () ↔
      ∃ n, Subsequence.find (· == ·) (Token.resolveAll code tokens) expected = .ok n := by
  unfold compare
  split <;> simp_all

theorem compare_error_iff {code : String} {tokens : List Token} {expected : List Span}
    {f : Mismatch} :
    compare code tokens expected = .error f ↔
      ∃ m, Subsequence.find (· == ·) (Token.resolveAll code tokens) expected = .error m ∧
        ofMissing code tokens expected m = f := by
  unfold compare
  split <;> simp_all

end Mismatch

/-- A named check, for tables of checks. -/
structure Case where
  name : String
  code : String
  expected : List Span
  deriving DecidableEq, Repr

namespace Tokenizer

/-- The message about a check that passed. -/
def passMessage (t : Tokenizer) (code : String) (expected actual : Nat) : String :=
  t.name ++ ": matched " ++ toString expected ++ " of " ++ toString actual ++ " tokens in " ++
    Text.quote code

/-- The message about a check that failed. -/
def failMessage (t : Tokenizer) (f : Mismatch) : String :=
  t.name ++ ": token " ++ f.missing.render ++ " missing in " ++ Text.quote f.code

/-- Checks that the tokens of `code` hold the spans of `expected` in order. -/
def check (t : Tokenizer) (code : String) (expected : List Span) :
    Action (Except Mismatch Unit) := do
  let h ← get
  let tokens ← Action.ofExcept (t.tokenize h.setting code)
  let outcome := Mismatch.compare code tokens expected
  match outcome with
  | .ok _ => Action.emit .debug (t.passMessage code expected.length tokens.length)
  | .error f => Action.emit .warn (t.failMessage f)
  return outcome

/-- A check whose failure is an error. -/
def attempt (t : Tokenizer) (code : String) (expected : List Span) :
    Action (Except Error Unit) := do
  let outcome ← t.check code expected
  return outcome.mapError .mismatch

/-- A check whose failure is a fault, with the report as its text. The report is written while the
fault is under way. So if it cannot be written, its own fault (`Fault.columnTooWide`, or
`Fault.ordinalOverflow`) is a second one on top of the first: here it stands for the end of the whole
process, which no host can catch. -/
def assert (t : Tokenizer) (code : String) (expected : List Span) : Action Unit := do
  match ← t.check code expected with
  | .ok _ => return
  | .error f => throw (.unmatched (← Action.ofExcept f.report))

/-- Runs every case, and gives the name and the failure of each one that fails. -/
def checkAll (t : Tokenizer) (cases : List Case) : Action (List (String × Mismatch)) :=
  cases.filterMapM fun c => do
    match ← t.check c.code c.expected with
    | .ok _ => return none
    | .error f => return some (c.name, f)

end Tokenizer

end HighlightCheck
