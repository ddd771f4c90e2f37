import HighlightCheck.Disk.FileTree
import HighlightCheck.Text.Quoted
import HighlightCheck.Text.Record
import Std.Data.TreeSet

/-!
# Command caches

What is known of the words of a shell: names of commands, names of aliases, and the folders in
which executable files are looked for, in order.

* `mem_addCommand`, `mem_addAlias`: what the builders add.
* `canRun_iff`: what can be run.
-/

namespace HighlightCheck

/-- Known commands and aliases, and the search path. -/
structure CommandCache where
  commands : Std.TreeSet String
  aliases : Std.TreeSet String
  path : List String

namespace CommandCache

/-- A cache that knows nothing. -/
def empty : CommandCache :=
  ⟨∅, ∅, []⟩

def addCommand (name : String) (c : CommandCache) : CommandCache :=
  { c with commands := c.commands.insert name }

def addAlias (name : String) (c : CommandCache) : CommandCache :=
  { c with aliases := c.aliases.insert name }

/-- Adds a folder at the end of the search path. -/
def addFolder (folder : String) (c : CommandCache) : CommandCache :=
  { c with path := c.path ++ [folder] }

/-- A cache with the search path that `searchPath` spells: folders with a colon between two of them,
of which empty ones do not count. -/
def ofSearchPath (searchPath : Option String) : CommandCache :=
  { empty with path := match searchPath with
      | none => []
      | some folders => (Text.split ':' folders).filter (· != "") }

/-- Whether `word` is the name of a command or alias. -/
def isRegistered (c : CommandCache) (word : String) : Bool :=
  c.commands.contains word || c.aliases.contains word

/-- Whether `word` runs something: it is registered, or it is the path of an executable file, or,
if it holds no slash, the name of one in a folder of the search path. -/
def canRun (c : CommandCache) (files : FileTree) (word : String) : Bool :=
  if word == "" then false
  else if c.isRegistered word then true
  else if word.toList.contains '/' then files.isExecutable word
  else c.path.any fun folder => files.isExecutable (Path.join folder word)

/-- Caches are equal if they know the same commands and aliases and have paths of the same shape
on the search path, in the same order. -/
instance : BEq CommandCache where
  beq a b :=
    a.commands.toList == b.commands.toList && a.aliases.toList == b.aliases.toList &&
      a.path.map Path.shape == b.path.map Path.shape

/-- The cache as a record. -/
def describe (c : CommandCache) : String :=
  Text.record "CommandCache"
    [("commands", Text.braced (c.commands.toList.map Text.quote)),
     ("aliases", Text.braced (c.aliases.toList.map Text.quote)),
     ("path", Text.bracketed (c.path.map Text.quote))]

theorem mem_addCommand {c : CommandCache} {name word : String} :
    word ∈ (c.addCommand name).commands ↔ name = word ∨ word ∈ c.commands := by
  simp [addCommand]

theorem mem_addAlias {c : CommandCache} {name word : String} :
    word ∈ (c.addAlias name).aliases ↔ name = word ∨ word ∈ c.aliases := by
  simp [addAlias]

theorem isRegistered_iff {c : CommandCache} {word : String} :
    c.isRegistered word = true ↔ word ∈ c.commands ∨ word ∈ c.aliases := by
  rw [isRegistered, Bool.or_eq_true]
  rfl

/-- What a cache can run: a registered word, a word that is the path of an executable file, or the
name of one in a folder of the search path. -/
theorem canRun_iff {c : CommandCache} {files : FileTree} {word : String} :
    c.canRun files word = true ↔
      word ≠ "" ∧ (c.isRegistered word = true ∨
        '/' ∈ word.toList ∧ files.isExecutable word = true ∨
        '/' ∉ word.toList ∧ ∃ folder ∈ c.path,
          files.isExecutable (Path.join folder word) = true) := by
  rw [canRun]
  by_cases hempty : word = ""
  · simp [hempty]
  · by_cases hregistered : c.isRegistered word = true
    · simp [hempty, hregistered]
    · by_cases hslash : '/' ∈ word.toList
      · simp [hempty, hregistered, hslash]
      · simp [hempty, hregistered, hslash]

end CommandCache

end HighlightCheck
