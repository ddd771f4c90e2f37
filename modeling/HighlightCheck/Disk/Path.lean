import HighlightCheck.Text.Pieces

/-!
# Paths

A path is a text of names with slashes between them. Two paths are alike if they spell the same
names from the same start (`Path.shape`); that is a matter of the text, no file is looked at.
-/

namespace HighlightCheck.Path

/-- Whether the path starts at the root. -/
def isAbsolute (path : String) : Bool :=
  path.toList.head? == some '/'

/-- The names of a path in order. Where slashes meet, or one stands at an end, the name between is
empty. -/
def names (path : String) : List String :=
  Text.split '/' path

/-- What two paths must share to be alike. -/
structure Shape where
  absolute : Bool
  names : List String
  deriving DecidableEq, Repr

/-- The shape of a path: empty names and `.` do not count, but for a `.` that comes first. -/
def shape (path : String) : Shape where
  absolute := isAbsolute path
  names := (names path).take 1 |>.filter (· == ".") |>.append
    ((names path).filter fun name => name != "" && name != ".")

/-- The path of `name` in the folder `folder`. The empty path stands for no folder at all. -/
def join (folder name : String) : String :=
  if folder == "" then name
  else if folder.toList.getLast? == some '/' then folder ++ name
  else folder ++ "/" ++ name

end HighlightCheck.Path
