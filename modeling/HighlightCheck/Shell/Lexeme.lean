import HighlightCheck.Shell.Item
import HighlightCheck.Token

/-!
# Lexemes of shell code

A lexeme is a piece of code that becomes one token. Most have a kind that their item gives them.
The kind of a word hangs on what is known of words (`Lookup`), and on whether the word is in command
position, that is, where a command is named: at the start, after a separator, and after the bracket
of a capture that runs what is inside it.

* `wordKind_reserved`, `wordKind_command`, `wordKind_argument`: the kinds of words.
* `chars_lexemes`: the lexemes make up the code.
-/

namespace HighlightCheck.Shell

/-- What decides the kind of a lexeme. -/
inductive Role where
  /-- The kind is given. -/
  | fixed (kind : Kind)
  /-- A word, in command position or not. -/
  | word (command : Bool)
  deriving DecidableEq, Repr

/-- A piece of code that becomes one token. -/
structure Lexeme where
  role : Role
  chars : List Char
  deriving DecidableEq, Repr

/-- What is known of words: which ones run something, and which ones are paths of files or
folders. -/
structure Lookup where
  canRun : String → Bool
  onDisk : String → Bool

/-- Words that belong to the script itself and need no look-up. -/
def reservedWords : List String :=
  ["print", "for", "in", "if", "else", "while", "def"]

/-- The kind of a word. Without anything known, no command is wrong and no word is a path. -/
def wordKind (known : Option Lookup) (command : Bool) (word : String) : Kind :=
  if reservedWords.contains word then .keyword
  else if command then
    match known with
    | none => .name
    | some lookup => if lookup.canRun word then .keyword else .error
  else if known.any (·.onDisk word) then .nameBuiltin
  else .text

section WordKind

variable {word : String}

theorem wordKind_reserved (known : Option Lookup) (command : Bool) (h : word ∈ reservedWords) :
    wordKind known command word = .keyword := by
  simp [wordKind, h]

theorem wordKind_command (known : Option Lookup) (h : word ∉ reservedWords) :
    wordKind known true word = known.elim .name fun lookup =>
      if lookup.canRun word then .keyword else .error := by
  cases known <;> simp [wordKind, h]

theorem wordKind_argument (known : Option Lookup) (h : word ∉ reservedWords) :
    wordKind known false word = if known.any (·.onDisk word) then .nameBuiltin else .text := by
  simp [wordKind, h]

end WordKind

namespace Item

/-- The lexemes of an item, where `command` says whether it stands in command position. -/
def lexemes (command : Bool) : Item → List Lexeme
  | blanks cs => [⟨.fixed .whitespace, cs⟩]
  | separator cs => [⟨.fixed .operator, cs⟩]
  | capture sigil opening => [⟨.fixed .keyword, [sigil]⟩, ⟨.fixed .punctuation, [opening]⟩]
  | bracket c => [⟨.fixed .punctuation, [c]⟩]
  | quoted [] => [⟨.fixed .punctuation, ['"']⟩, ⟨.fixed .punctuation, ['"']⟩]
  | quoted body =>
    [⟨.fixed .punctuation, ['"']⟩, ⟨.fixed .stringDouble, body⟩, ⟨.fixed .punctuation, ['"']⟩]
  | unclosed body => [⟨.fixed .error, '"' :: body⟩]
  | word cs => [⟨.word command, cs⟩]

/-- Whether command position follows an item. Blanks leave it as it was; a capture runs what is
inside it unless its sigil is `@`. -/
def commandAfter (command : Bool) : Item → Bool
  | blanks _ => command
  | separator _ => true
  | capture sigil _ => sigil != '@'
  | _ => false

theorem chars_lexemes (command : Bool) (item : Item) :
    (item.lexemes command).flatMap (·.chars) = item.chars := by
  cases item with
  | quoted body => cases body <;> simp [lexemes, chars]
  | _ => simp [lexemes, chars]

end Item

namespace Lexeme

/-- The lexemes of a sequence of items that begins in command position or not. -/
def ofItems (command : Bool) : List Item → List Lexeme
  | [] => []
  | item :: items => item.lexemes command ++ ofItems (item.commandAfter command) items

/-- The lexemes of a text. Code begins in command position. -/
def ofChars (cs : List Char) : List Lexeme :=
  ofItems true (Item.scan cs)

/-- The kind of a lexeme. -/
def kind (known : Option Lookup) (l : Lexeme) : Kind :=
  match l.role with
  | .fixed kind => kind
  | .word command => wordKind known command (String.ofList l.chars)

/-- The lexeme as a span. -/
def span (known : Option Lookup) (l : Lexeme) : Span :=
  ⟨l.kind known, String.ofList l.chars⟩

theorem chars_ofItems (command : Bool) (items : List Item) :
    (ofItems command items).flatMap (·.chars) = items.flatMap Item.chars := by
  induction items generalizing command with
  | nil => rfl
  | cons item items ih => simp [ofItems, ih, Item.chars_lexemes]

/-- The lexemes make up the text. -/
theorem chars_ofChars (cs : List Char) : (ofChars cs).flatMap (·.chars) = cs := by
  rw [ofChars, chars_ofItems, Item.chars_scan]

end Lexeme

end HighlightCheck.Shell
