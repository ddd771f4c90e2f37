import HighlightCheck.Shell.Lexeme
import HighlightCheck.Tokenizer

/-!
# The shell tokenizer

Shell code by its lexemes (`Shell.Lexeme.ofChars`), where words are looked up in the command cache
that is loaded.
-/

namespace HighlightCheck

/-- What a command cache says of words, in a tree of files. -/
def CommandCache.lookup (c : CommandCache) (files : FileTree) : Shell.Lookup :=
  ⟨c.canRun files, files.has⟩

/-- What is known of words in a setting: nothing without a cache. -/
def Setting.lookup (setting : Setting) : Option Shell.Lookup :=
  setting.cache.map (·.lookup setting.files)

namespace Shell

/-- The spans of shell code. -/
def spans (known : Option Lookup) (code : String) : List Span :=
  (Lexeme.ofChars code.toList).map (·.span known)

end Shell

namespace Tokenizer

/-- Gives the spans of shell code, one after the other. -/
def shell : Tokenizer where
  name := "FakeShell"
  aliases := ["fsh"]
  tokenize setting code := .ok (Span.layOut 0 (Shell.spans setting.lookup code))

end Tokenizer

end HighlightCheck
