/-!
# Values as text

How records, lists and sets are written: `Name \x7b field: value, ... \x7d`, `[a, b]` and
`\x7ba, b\x7d`.
-/

namespace HighlightCheck.Text

/-- Items with a comma and a space between two of them. -/
def commaSeparated (items : List String) : String :=
  ", ".intercalate items

/-- A list of items in brackets. -/
def bracketed (items : List String) : String :=
  "[" ++ commaSeparated items ++ "]"

/-- A set of items in braces. -/
def braced (items : List String) : String :=
  "\x7b" ++ commaSeparated items ++ "\x7d"

/-- A record: the name of its type, and its fields in order. -/
def record (typeName : String) (fields : List (String × String)) : String :=
  typeName ++ " \x7b " ++
    commaSeparated (fields.map fun (field, value) => field ++ ": " ++ value) ++ " \x7d"

end HighlightCheck.Text
