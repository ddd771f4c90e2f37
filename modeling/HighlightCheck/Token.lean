import HighlightCheck.Fault
import HighlightCheck.Kind
import HighlightCheck.Text.Offset
import HighlightCheck.Text.Quoted
import HighlightCheck.Text.Record

/-!
# Tokens and spans

A token is a kind over a range of bytes; a span is a kind and a text. A check compares spans, so
the tokens of a highlighter are first resolved against the code they were made for. A token whose
range is no slice of the code resolves to an empty span of kind `Kind.error`.

* `resolve_eq_of_slice`, `resolve_eq_of_none`: the two ways a token resolves.
-/

namespace HighlightCheck

/-- A kind over the bytes of the code from `start` to `stop`. Nothing is said of the range: it
may lie outside the code or be reversed. -/
structure Token where
  kind : Kind
  start : Nat
  stop : Nat
  deriving DecidableEq, Repr

/-- A kind and a text. -/
structure Span where
  kind : Kind
  text : String
  deriving DecidableEq, Repr

namespace Token

/-- A token whose range is in order. -/
def make (kind : Kind) (start stop : Nat) : Except Fault Token :=
  if start ≤ stop then .ok ⟨kind, start, stop⟩ else .error .reversedRange

/-- The number of bytes, zero if the range is reversed. -/
def length (t : Token) : Nat :=
  t.stop - t.start

def isEmpty (t : Token) : Bool :=
  t.length == 0

/-- The token as a record. -/
def describe (t : Token) : String :=
  Text.record "Token"
    [("kind", t.kind.label), ("start", toString t.start), ("end", toString t.stop)]

end Token

namespace Span

/-- What stands for a token without text: no text, of kind `Kind.error`. -/
def unresolved : Span :=
  ⟨.error, ""⟩

/-- The span as a pair of its kind and its quoted text. -/
def render (s : Span) : String :=
  "(" ++ s.kind.dotted ++ ", " ++ Text.quote s.text ++ ")"

/-- The span as a record. -/
def describe (s : Span) : String :=
  Text.record "OwnedSpan" [("kind", s.kind.label), ("text", Text.quote s.text)]

end Span

namespace Token

/-- The span of `t` in `code`. -/
def resolve (code : String) (t : Token) : Span :=
  match Text.slice? code t.start t.stop with
  | some text => ⟨t.kind, text⟩
  | none => .unresolved

/-- The spans of `tokens` in `code`, one for each. -/
def resolveAll (code : String) (tokens : List Token) : List Span :=
  tokens.map (·.resolve code)

theorem resolve_eq_of_slice {code text : String} {t : Token}
    (h : Text.slice? code t.start t.stop = some text) : t.resolve code = ⟨t.kind, text⟩ := by
  simp [resolve, h]

theorem resolve_eq_of_none {code : String} {t : Token}
    (h : Text.slice? code t.start t.stop = none) : t.resolve code = .unresolved := by
  simp [resolve, h]

@[simp] theorem length_resolveAll (code : String) (tokens : List Token) :
    (resolveAll code tokens).length = tokens.length := by
  simp [resolveAll]

end Token

end HighlightCheck
