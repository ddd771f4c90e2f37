import HighlightCheck.Text.CharClass

/-!
# Blank characters

The blank characters are those that the character standard lists as white space. `trim` takes them
off both ends of a text; `foldKey` also sets the letters `A` to `Z` in lower case, which is how
names are compared on look-up.
-/

namespace HighlightCheck.Text

/-- The ranges of blank characters. -/
def blank : CharClass :=
  [⟨0x9, 0xD⟩, ⟨0x20, 0x20⟩, ⟨0x85, 0x85⟩, ⟨0xA0, 0xA0⟩, ⟨0x1680, 0x1680⟩, ⟨0x2000, 0x200A⟩,
   ⟨0x2028, 0x2029⟩, ⟨0x202F, 0x202F⟩, ⟨0x205F, 0x205F⟩, ⟨0x3000, 0x3000⟩]

/-- Whether `c` is blank: white space in any script. -/
def isBlank (c : Char) : Bool :=
  blank.has c

/-- `cs` without the blanks at its end. -/
def trimRight (cs : List Char) : List Char :=
  (cs.reverse.dropWhile isBlank).reverse

/-- `cs` without the blanks at its two ends. -/
def trimChars (cs : List Char) : List Char :=
  trimRight (cs.dropWhile isBlank)

/-- `s` without the blanks at its two ends. -/
def trim (s : String) : String :=
  String.ofList (trimChars s.toList)

/-- The form of a name under which it is looked up: no blanks around it, `A` to `Z` in lower case,
every other letter as it is. -/
def foldKey (s : String) : String :=
  String.ofList ((trimChars s.toList).map Char.toLower)

end HighlightCheck.Text
