import LayoutParity.Files.Error

/-!
# File trees

The files and directories of a machine, from the root on, and the directory that a program runs in,
as a value. A path is a text of names between slashes; one that begins with a slash starts from the
root, and any other from the working directory. It is followed name by name, and every name but the
last has to be that of a directory. Two dots lead to the directory above, which is the root again at
the root, and one dot stays.

A name has at most 255 bytes, and a path at most 4095, whether it leads anywhere or not. Writing
replaces or creates one file and changes nothing else; a refused write changes nothing at all.
-/

namespace LayoutParity

/-- What a path leads to. -/
inductive FileNode where
  | directory
  | file (content : ByteArray)

/-- A place that a path can lead to: the names that lead there from the root. -/
abbrev Place := List String

/-- The place above another one. -/
def Place.parent (place : Place) : Place :=
  place.dropLast

/-- The files and directories of a machine, and where a program runs. -/
structure FileTree where
  /-- The entries by the places that they are found at, without the root itself. -/
  entries : List (Place × FileNode)
  /-- The place that a path starts from that does not begin at the root. -/
  workingDirectory : Place

namespace FileTree

/-- The most bytes that a name can have. -/
def maxNameBytes : Nat := 255

/-- The most bytes that a whole path can have. -/
def maxPathBytes : Nat := 4095

/-- What is found at a place. -/
def node? (tree : FileTree) : Place → Option FileNode
  | [] => some .directory
  | place => tree.entries.lookup place

/-- Fails unless a directory is found at the place. -/
def requireDirectory (tree : FileTree) (place : Place) : Except FileError Unit :=
  match tree.node? place with
  | some .directory => .ok ()
  | some (.file _) => .error .notDirectory
  | none => .error .notFound

/-- The place that a name leads to from another place. -/
def follow (tree : FileTree) (place : Place) (name : String) : Except FileError Place := do
  tree.requireDirectory place
  if name = "." then return place
  else if name = ".." then return place.parent
  else if maxNameBytes < name.utf8ByteSize then throw .nameTooLong
  else return place ++ [name]

/-- The names in a path, between its slashes. -/
def pathNames (path : String) : List String :=
  ((path.toList.splitOn '/').map String.ofList).filter (· ≠ "")

/-- Whether a path says that it leads to a directory. -/
def endsInSlash (path : String) : Bool :=
  path.toList.getLast? = some '/'

/-- Fails unless a path can be followed at all, whatever the tree is. -/
def checkPath (path : String) : Except FileError Unit :=
  if path.toList.contains '\x00' then .error .nulInPath
  else if path = "" then .error .notFound
  else if maxPathBytes < path.utf8ByteSize then .error .nameTooLong
  else .ok ()

/-- The place that a path starts from. -/
def start (tree : FileTree) (path : String) : Place :=
  if path.toList.head? = some '/' then [] else tree.workingDirectory

/-- The place that a path leads to. -/
def locate (tree : FileTree) (path : String) : Except FileError Place := do
  checkPath path
  (pathNames path).foldlM tree.follow (tree.start path)

/-- The place that a path leads to without the last of its names, which is a directory. -/
def locateParent (tree : FileTree) (path : String) : Except FileError Place := do
  checkPath path
  let parent ← (pathNames path).dropLast.foldlM tree.follow (tree.start path)
  tree.requireDirectory parent
  return parent

/-- Whether a path leads to a directory. -/
def isDirectory (tree : FileTree) (path : String) : Bool :=
  match tree.locate path with
  | .ok place => (tree.requireDirectory place).isOk
  | .error _ => false

/-- The bytes of the file that a path leads to. -/
def readBytes (tree : FileTree) (path : String) : Except FileError ByteArray := do
  let place ← tree.locate path
  match tree.node? place with
  | none => throw .notFound
  | some .directory => throw .isDirectory
  | some (.file content) => if endsInSlash path then throw .notDirectory else return content

/-- The bytes as text. -/
def decodeText (content : ByteArray) : Except FileError String :=
  match String.fromUTF8? content with
  | some text => .ok text
  | none => .error .notText

/-- The text of the file that a path leads to. -/
def readText (tree : FileTree) (path : String) : Except FileError String := do
  decodeText (← tree.readBytes path)

/-- The entries with one of them set. -/
def setEntry (place : Place) (node : FileNode) :
    List (Place × FileNode) → List (Place × FileNode)
  | [] => [(place, node)]
  | entry :: rest =>
    if entry.1 = place then (place, node) :: rest else entry :: setEntry place node rest

/-- The tree after a text was written to the file that a path leads to. A path that ends in a slash
leads to no file; its last name is not looked at. -/
def writeText (tree : FileTree) (path text : String) : Except FileError FileTree := do
  if endsInSlash path then
    let _ ← tree.locateParent path
    throw .isDirectory
  let place ← tree.locate path
  match tree.node? place with
  | some .directory => throw .isDirectory
  | some (.file _) | none =>
    return { tree with entries := setEntry place (.file text.toUTF8) tree.entries }

end FileTree

end LayoutParity
