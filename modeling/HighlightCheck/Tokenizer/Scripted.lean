import HighlightCheck.Tokenizer
import Std.Data.TreeMap

/-!
# Scripted tokenizers

A tokenizer that knows some codes, each with the spans that make it up, and gives those. Any other
code is one token.
-/

namespace HighlightCheck

/-- Spans by the code that they make up. -/
structure Scripts where
  spansOf : Std.TreeMap String (List Span)

namespace Scripts

def empty : Scripts :=
  ⟨∅⟩

/-- Adds spans for the code that they make up, in place of those that it had. -/
def add (spans : List Span) (s : Scripts) : Scripts :=
  ⟨s.spansOf.insert (Span.concat spans) spans⟩

/-- The spans for `code`: those added last, or the whole code as text. -/
def find (s : Scripts) (code : String) : List Span :=
  s.spansOf[code]?.getD [⟨.text, code⟩]

end Scripts

namespace Tokenizer

/-- Gives the spans that `scripts` has for the code. -/
def scripted (scripts : Scripts) : Tokenizer where
  name := "scripted"
  aliases := []
  tokenize _ code := .ok (Span.layOut 0 (scripts.find code))

end Tokenizer

end HighlightCheck
