import HighlightCheck.CommandCache
import HighlightCheck.Token

/-!
# Tokenizers

A tokenizer turns code into tokens. It may look at its setting: the command cache that is loaded,
if one is, and the files. What it gives is not checked; it may also end in a fault.
-/

namespace HighlightCheck

/-- What a tokenizer can look at beside the code. -/
structure Setting where
  cache : Option CommandCache
  files : FileTree

/-- A highlighter of some language, with the names it goes by. -/
structure Tokenizer where
  name : String
  aliases : List String
  tokenize : Setting → (code : String) → Except Fault (List Token)

namespace Span

/-- The tokens of spans that stand one after the other from byte `start` on. -/
def layOut (start : Nat) : List Span → List Token
  | [] => []
  | s :: rest =>
    ⟨s.kind, start, start + s.text.utf8ByteSize⟩ :: layOut (start + s.text.utf8ByteSize) rest

/-- The texts of spans, one after the other. -/
def concat (spans : List Span) : String :=
  String.join (spans.map (·.text))

end Span

namespace Tokenizer

/-- The spans of `code`. -/
def spans (t : Tokenizer) (setting : Setting) (code : String) : Except Fault (List Span) :=
  (t.tokenize setting code).map (Token.resolveAll code)

end Tokenizer

end HighlightCheck
