import HighlightCheck.Disk.Path

/-!
# File trees

A tree of folders, files and links, and what a path means in it. A path is walked name by name:
an empty name or `.` stays, `..` goes to the parent, any other name must be in the folder at hand.
So a path that ends in a slash is one of a folder. Links are followed wherever they stand, forty at
most in one walk, so a walk that goes in circles ends. A path of more than 4095 bytes leads
nowhere.
-/

namespace HighlightCheck

/-- A place in a file tree: the names from the root on, outermost first. -/
abbrev Location := List String

/-- What a name stands for. -/
inductive Node where
  | folder
  /-- A file with these permission bits. -/
  | file (mode : Nat)
  /-- A link to a path. -/
  | link (target : String)
  deriving DecidableEq, Repr

/-- A file tree, with the folder from which relative paths start. -/
structure FileTree where
  home : Location
  node? : Location → Option Node

namespace FileTree

/-- How many links a walk follows at most. -/
def maxLinks : Nat :=
  40

/-- How many bytes a path has at most. Targets of links are not counted. -/
def maxBytes : Nat :=
  4095

/-- The root is a folder of every tree. -/
def isFolder (t : FileTree) (place : Location) : Bool :=
  place == [] || t.node? place == some .folder

/-- Where a path starts that is met in the folder `here`. -/
def origin (path : String) (here : Location) : Location :=
  if Path.isAbsolute path then [] else here

/-- Walks from the folder `here` by `names`, following at most `links` links. Gives the place where
the walk ends, which is not a link, if each name on the way is there. -/
def walk (t : FileTree) :
    (links : Nat) → (here : Location) → (names : List String) → Option Location
  | _, here, [] => some here
  | links, here, name :: rest =>
    if !t.isFolder here then none
    else if name == "" || name == "." then t.walk links here rest
    else if name == ".." then t.walk links here.dropLast rest
    else
      match t.node? (here ++ [name]), links with
      | none, _ => none
      | some (.link _), 0 => none
      | some (.link target), links + 1 =>
        t.walk links (origin target here) (Path.names target ++ rest)
      | some _, links => t.walk links (here ++ [name]) rest
termination_by links _ names => (links, names.length)

/-- The place that `path` leads to. The empty path and one that is too long lead nowhere. -/
def locate? (t : FileTree) (path : String) : Option Location :=
  if path == "" || maxBytes < path.utf8ByteSize then none
  else t.walk maxLinks (origin path t.home) (Path.names path)

/-- What `path` leads to. -/
def stat? (t : FileTree) (path : String) : Option Node :=
  (t.locate? path).bind fun place => if place == [] then some .folder else t.node? place

/-- Whether `path` leads to a file or folder. -/
def has (t : FileTree) (path : String) : Bool :=
  (t.stat? path).isSome

/-- Whether `path` leads to a file that someone may execute. -/
def isExecutable (t : FileTree) (path : String) : Bool :=
  match t.stat? path with
  | some (.file mode) => mode &&& 0o111 != 0
  | _ => false

/-! ## Building a tree -/

/-- A tree of one empty folder, where relative paths start. No path can spell that folder's own
name, so nothing but the folder and the root can be reached. -/
def empty : FileTree where
  home := [""]
  node? place := if place = [""] then some .folder else none

/-- The tree with `node` at `place`. -/
def put (t : FileTree) (place : Location) (node : Node) : FileTree :=
  { t with node? := fun other => if other = place then some node else t.node? other }

/-- Goes from the folder `here` by `names` as a walk does, and makes a folder of each name that is
missing on the way. Gives the tree and the place reached. -/
def makeFolders (t : FileTree) (here : Location) : List String → FileTree × Location
  | [] => (t, here)
  | name :: rest =>
    if name == "" || name == "." then t.makeFolders here rest
    else if name == ".." then t.makeFolders here.dropLast rest
    else
      match t.walk maxLinks here [name] with
      | some place => t.makeFolders place rest
      | none => (t.put (here ++ [name]) .folder).makeFolders (here ++ [name]) rest

/-- The tree with `node` at `path`, and with the folders that `path` names on the way. -/
def add (t : FileTree) (path : String) (node : Node) : FileTree :=
  let names := (Path.names path).filter (· != "")
  match names.getLast? with
  | none => t
  | some name =>
    let (t, folder) := t.makeFolders (origin path t.home) names.dropLast
    if node == .folder then (t.makeFolders folder [name]).1 else t.put (folder ++ [name]) node

end FileTree

end HighlightCheck
