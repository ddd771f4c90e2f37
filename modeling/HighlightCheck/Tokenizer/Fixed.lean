import HighlightCheck.Tokenizer

/-!
# Fixed tokenizers

A tokenizer that gives the same tokens whatever the code is.
-/

namespace HighlightCheck.Tokenizer

/-- Gives `tokens` as they are. -/
def fixed (name : String) (aliases : List String) (tokens : List Token) : Tokenizer where
  name := name
  aliases := aliases
  tokenize _ _ := .ok tokens

/-- Gives `tokens`, each made anew, so that a reversed range is a fault. -/
def fixedChecked (name : String) (aliases : List String) (tokens : List Token) : Tokenizer where
  name := name
  aliases := aliases
  tokenize _ _ := tokens.mapM fun t => Token.make t.kind t.start t.stop

end HighlightCheck.Tokenizer
