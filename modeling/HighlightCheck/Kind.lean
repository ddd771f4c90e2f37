import HighlightCheck.Text.Blank

/-!
# Token kinds

The categories that a highlighter gives its tokens. A kind has a dotted name, `String.Double` for
instance, and at most one parent; the tree is two levels deep (`parent?_parent?`). Kinds are
ordered as they are listed.

* `parse_dotted`: the name of a kind reads back as that kind.
-/

namespace HighlightCheck

/-- A category of tokens. -/
inductive Kind where
  | text
  | whitespace
  | error
  | keyword
  | keywordConstant
  | name
  | nameBuiltin
  | nameFunction
  | string
  | stringAffix
  | stringBacktick
  | stringDouble
  | stringSingle
  | stringEscape
  | stringRegex
  | number
  | operator
  | punctuation
  | comment
  | generic
  deriving DecidableEq, Repr

/-- A text that names no kind. -/
structure UnknownKind where
  name : String
  deriving DecidableEq, Repr

namespace Kind

/-- Every kind, in order. -/
def all : List Kind :=
  [text, whitespace, error, keyword, keywordConstant, name, nameBuiltin, nameFunction, string,
   stringAffix, stringBacktick, stringDouble, stringSingle, stringEscape, stringRegex, number,
   operator, punctuation, comment, generic]

/-- The dotted name. -/
def dotted : Kind → String
  | text => "Text"
  | whitespace => "Whitespace"
  | error => "Error"
  | keyword => "Keyword"
  | keywordConstant => "Keyword.Constant"
  | name => "Name"
  | nameBuiltin => "Name.Builtin"
  | nameFunction => "Name.Function"
  | string => "String"
  | stringAffix => "String.Affix"
  | stringBacktick => "String.Backtick"
  | stringDouble => "String.Double"
  | stringSingle => "String.Single"
  | stringEscape => "String.Escape"
  | stringRegex => "String.Regex"
  | number => "Number"
  | operator => "Operator"
  | punctuation => "Punctuation"
  | comment => "Comment"
  | generic => "Generic"

/-- The dotted name without its dot. -/
def label (k : Kind) : String :=
  String.ofList (k.dotted.toList.filter (· != '.'))

/-- The place of the kind in `Kind.all`. -/
def index (k : Kind) : Nat :=
  all.idxOf k

/-- Kinds are ordered by their place in `Kind.all`. -/
instance : Ord Kind where
  compare a b := compare a.index b.index

/-- The kind that `k` is a special case of, if it is one. -/
def parent? : Kind → Option Kind
  | keywordConstant => some keyword
  | nameBuiltin | nameFunction => some name
  | stringAffix | stringBacktick | stringDouble | stringSingle | stringEscape | stringRegex =>
    some string
  | _ => none

/-- The kind itself and its parent. -/
def lineage (k : Kind) : List Kind :=
  k :: k.parent?.toList

/-- Whether `k` is `ancestor` or a special case of it. -/
def isSubkindOf (k ancestor : Kind) : Bool :=
  k.lineage.contains ancestor

/-- The kind that `s` names, blanks around the name aside. -/
def parse (s : String) : Except UnknownKind Kind :=
  let trimmed := Text.trim s
  match all.find? (·.dotted == trimmed) with
  | some k => .ok k
  | none => .error ⟨trimmed⟩

theorem mem_all (k : Kind) : k ∈ all := by
  cases k <;> decide

/-- A parent has no parent of its own, so `Kind.lineage` misses no ancestor. -/
theorem parent?_parent? {k p : Kind} (h : k.parent? = some p) : p.parent? = none := by
  revert h; revert p; cases k <;> simp [parent?]

theorem dotted_injective {a b : Kind} (h : a.dotted = b.dotted) : a = b := by
  revert h; cases a <;> cases b <;> decide

theorem parse_dotted (k : Kind) : parse k.dotted = .ok k := by
  cases k <;> rfl

end Kind

end HighlightCheck
