import HighlightCheck.Text.Hidden

/-!
# Quoted text

A text in double quotes, in which every character can be told: a backslash starts an escape, which
is a letter for six characters and the code point in hexadecimal for a hidden one
(`Text.isHidden`). Every other character stands for itself.
-/

namespace HighlightCheck.Text.Quoted

/-- The characters whose escape is a backslash and one character. -/
def shortForms : List (Char × Char) :=
  [('\x00', '0'), ('\t', 't'), ('\n', 'n'), ('\r', 'r'), ('"', '"'), ('\\', '\\')]

/-- The digits of `n` in base 16, in lower case and without leading zeros. -/
def hexDigits (n : Nat) : List Char :=
  Nat.toDigits 16 n

/-- How a quoted text writes `c`. -/
def spell (c : Char) : List Char :=
  match shortForms.lookup c with
  | some short => ['\\', short]
  | none => if isHidden c then ['\\', 'u', '\x7b'] ++ hexDigits c.toNat ++ ['\x7d'] else [c]

/-- The quoted form of `cs`. -/
def encode (cs : List Char) : List Char :=
  '"' :: cs.flatMap spell ++ ['"']

end HighlightCheck.Text.Quoted

namespace HighlightCheck.Text

/-- The quoted form of `s`. -/
def quote (s : String) : String :=
  String.ofList (Quoted.encode s.toList)

end HighlightCheck.Text
