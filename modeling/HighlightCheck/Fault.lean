/-!
# Faults

A fault ends the operation under way: a token that cannot be built, a report that cannot be
written, a listener that fails, an assertion that does not hold. The text of a fault is what its
host sees (`Fault.message`). A report that cannot be written is a fault that a host can catch where the
report is asked for, but not where it is the text of another fault (`Tokenizer.assert`).
-/

namespace HighlightCheck

/-- Why an operation ended early. -/
inductive Fault where
  /-- A token was to start after its end. -/
  | reversedRange
  /-- The ordinal of an expected token is past the largest count. -/
  | ordinalOverflow
  /-- The caret of a report is further right than a line can be padded. -/
  | columnTooWide
  /-- A log listener failed, with this text. -/
  | listener (text : String)
  /-- An assertion did not hold, with this report. -/
  | unmatched (report : String)
  /-- The host ended its work, with this text. -/
  | raised (text : String)
  deriving DecidableEq, Repr

namespace Fault

/-- The text of a fault. -/
def message : Fault → String
  | reversedRange => "token range must be start <= end"
  | ordinalOverflow => "attempt to add with overflow"
  | columnTooWide => "Formatting argument out of range"
  | listener text => text
  | unmatched report => report
  | raised text => text

end Fault

end HighlightCheck
