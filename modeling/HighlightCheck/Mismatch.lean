import HighlightCheck.Text.Width
import HighlightCheck.Token

/-!
# Reports of missing tokens

A failed check says which expected token was not found, where in the code the search for it began,
and what the whole stream of tokens was. The report shows the line of the code that holds the place
where the search began, with a caret under it.

* `report_eq_ok_iff`: when a report can be written, and what it is then.
-/

namespace HighlightCheck

/-- An expected token that was not found. -/
structure Mismatch where
  /-- The code that was checked. -/
  code : String
  /-- The expected token. -/
  missing : Span
  /-- Its place among the expected tokens. -/
  expectedIndex : Nat
  /-- How many tokens were expected. -/
  expectedCount : Nat
  /-- The byte of the code at which the search for it began. -/
  searchOffset : Nat
  /-- Every token of the code. -/
  actual : List Span
  deriving DecidableEq, Repr

/-- A line of code and a column in it. -/
structure Place where
  line : String
  column : Nat
  deriving DecidableEq, Repr

namespace Place

/-- The last line of a text: what follows its last line feed. -/
def lastLine (cs : List Char) : List Char :=
  (cs.reverse.takeWhile (· != '\n')).reverse

/-- The first line of a text: what precedes its first line feed. -/
def firstLine (cs : List Char) : List Char :=
  cs.takeWhile (· != '\n')

/-- A line without the returns at its end. -/
def dropReturns (cs : List Char) : List Char :=
  (cs.reverse.dropWhile (· == '\r')).reverse

/-- The line around the point between `before` and `after`, and the columns of it that lie before
that point. -/
def between (before after : List Char) : Place where
  line := String.ofList (dropReturns (lastLine before ++ firstLine after))
  column := Text.width (lastLine before)

/-- The place of byte `offset` of `code`. An offset past the end is read as the end, one inside a
character as the start of that character. -/
def ofOffset (code : String) (offset : Nat) : Place :=
  let parts := Text.splitAt code offset
  between parts.1.toList parts.2.toList

end Place

namespace Mismatch

/-- The largest count that can be written in a report. -/
def maxCount : Nat :=
  UInt64.size - 1

/-- The widest margin that a line of a report can have. -/
def maxMargin : Nat :=
  65535

/-- Where the search began. -/
def place (f : Mismatch) : Place :=
  .ofOffset f.code f.searchOffset

/-- The tokens of the code, as a list. -/
def renderTokens (f : Mismatch) : String :=
  Text.bracketed (f.actual.map Span.render)

/-- The text of the report: what is missing, the line, the caret under it, and the tokens of the
code. -/
def text (f : Mismatch) : String :=
  let place := f.place
  "token " ++ f.missing.render ++ " missing (expected " ++ toString (f.expectedIndex + 1) ++
    " of " ++ toString f.expectedCount ++ ")\n  " ++ place.line ++ "\n  " ++
    String.ofList (List.replicate place.column ' ') ++ "^ search started here\nactual: " ++
    f.renderTokens

/-- The report, unless its count or its caret is past the limit. -/
def report (f : Mismatch) : Except Fault String :=
  if maxCount ≤ f.expectedIndex then .error .ordinalOverflow
  else if maxMargin < f.place.column then .error .columnTooWide
  else .ok f.text

theorem report_eq_ok_iff {f : Mismatch} {s : String} :
    f.report = .ok s ↔ f.expectedIndex < maxCount ∧ f.place.column ≤ maxMargin ∧ f.text = s := by
  unfold report
  split
  · rename_i h
    simp [Nat.not_lt.mpr h]
  · rename_i ho
    split
    · rename_i h
      simp [Nat.not_le.mpr h]
    · rename_i hm
      simp [Nat.lt_of_not_le ho, Nat.le_of_not_lt hm]

end Mismatch

end HighlightCheck
