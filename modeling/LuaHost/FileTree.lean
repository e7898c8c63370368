import LuaHost.Text.Path

/-!
# File trees

The files that a host can see: a finite tree of directories and files, with the lookup rules of
paths. The directories above the working directory exist, and nothing else is known of them. Files
may be sealed against reading and writing; directories are not. Links, pipes and devices are left
out.
-/

namespace LuaHost

open LuaHost.Text

/-- Why a file cannot be read or written. -/
inductive FileError where
  | notFound
  | isDirectory
  | notDirectory
  | nameTooLong
  | nulInPath
  | denied
  | notText
  deriving DecidableEq, Repr

/-- The text of a file error. -/
def FileError.text : FileError → String
  | .notFound => "No such file or directory (os error 2)"
  | .isDirectory => "Is a directory (os error 21)"
  | .notDirectory => "Not a directory (os error 20)"
  | .nameTooLong => "File name too long (os error 36)"
  | .nulInPath => "file name contained an unexpected NUL byte"
  | .denied => "Permission denied (os error 13)"
  | .notText => "stream did not contain valid UTF-8"

/-- A place in the tree: names from the root, or from a number of levels above the working
directory. -/
structure Place where
  levelsUp : Option Nat
  names : List String
  deriving DecidableEq, Repr

namespace Place

/-- The working directory. -/
def workingDirectory : Place := ⟨some 0, []⟩

/-- The root directory. -/
def root : Place := ⟨none, []⟩

/-- The entry of a given name in a directory. -/
def child (place : Place) (name : String) : Place :=
  { place with names := place.names ++ [name] }

/-- The directory above a place. -/
def parent (place : Place) : Place :=
  if place.names.isEmpty then { place with levelsUp := place.levelsUp.map (· + 1) }
  else { place with names := place.names.dropLast }

/-- Whether a place is a directory whatever the tree holds. -/
def isAnchor (place : Place) : Bool :=
  place.names.isEmpty

/-- The directories that lead to a place, the outermost first. -/
def ancestors (place : Place) : List Place :=
  (List.range place.names.length).map fun n => { place with names := place.names.take n }

end Place

/-- What is at a place. -/
inductive Node where
  | directory
  | file (content : ByteArray)
  /-- A file that may be neither read nor written. -/
  | sealed

/-- The directories and files that are known. -/
structure FileTree where
  entries : List (Place × Node) := []

namespace FileTree

/-- What is at a place, if anything. -/
def node? (tree : FileTree) (place : Place) : Option Node :=
  if place.isAnchor then some .directory
  else (tree.entries.find? fun (known, _) => known == place).map Prod.snd

/-- The most bytes that a name may have. -/
def longestName : Nat := 255

/-- The number of bytes from which on a path is too long. -/
def longestPath : Nat := 4096

/-- Fails unless there is a directory at `place`. -/
def requireDirectory (tree : FileTree) (place : Place) : Except FileError Unit :=
  match tree.node? place with
  | some .directory => .ok ()
  | some _ => .error .notDirectory
  | none => .error .notFound

/-- Follows the segments of a path from a place. Every segment needs a directory to stand in. -/
def follow (tree : FileTree) (place : Place) : List (List Char) → Except FileError Place
  | [] => .ok place
  | segment :: rest => do
    tree.requireDirectory place
    if Path.isIdle segment then follow tree place rest
    else if segment == ['.', '.'] then follow tree place.parent rest
    else
      let name := String.ofList segment
      if longestName < name.utf8ByteSize then throw .nameTooLong
      follow tree (place.child name) rest

/-- The place that a path leads to; there need not be anything at its last name. -/
def locate (tree : FileTree) (path : String) : Except FileError Place :=
  if path.toList.contains '\x00' then .error .nulInPath
  else if longestPath ≤ path.utf8ByteSize then .error .nameTooLong
  else
    match Path.segments path with
    | [[]] => .error .notFound
    | [] :: rest => tree.follow .root rest
    | segments => tree.follow .workingDirectory segments

/-- What a path leads to. -/
def lookup (tree : FileTree) (path : String) : Except FileError Node := do
  let place ← tree.locate path
  match tree.node? place with
  | some node => .ok node
  | none => .error .notFound

/-- Whether a path leads to a file. -/
def isFile (tree : FileTree) (path : String) : Bool :=
  match tree.lookup path with
  | .ok .directory => false
  | .ok _ => true
  | .error _ => false

/-- Whether a path leads to a directory. -/
def isDirectory (tree : FileTree) (path : String) : Bool :=
  match tree.lookup path with
  | .ok .directory => true
  | _ => false

/-- Whether a path leads to anything. -/
def pathExists (tree : FileTree) (path : String) : Bool :=
  match tree.lookup path with
  | .ok _ => true
  | .error _ => false

/-- The text of the file at a path. -/
def readText (tree : FileTree) (path : String) : Except FileError String := do
  match ← tree.lookup path with
  | .directory => throw .isDirectory
  | .sealed => throw .denied
  | .file content =>
    match String.fromUTF8? content with
    | some text => return text
    | none => throw .notText

/-- The tree with a node put at a place, in the stead of what was there. -/
def put (tree : FileTree) (place : Place) (node : Node) : FileTree :=
  { entries := (place, node) :: tree.entries.filter fun (known, _) => known != place }

/-- The tree with a node at a path, and directories on the way to it. -/
def place (tree : FileTree) (path : String) (node : Node) : FileTree :=
  let target := (Path.components path).foldl (fun place component =>
    match component with
    | .root => Place.root
    | .current => place
    | .parent => place.parent
    | .named name => place.child name) Place.workingDirectory
  let withParents := target.ancestors.foldl (fun tree directory =>
    if directory.isAnchor then tree else tree.put directory .directory) tree
  withParents.put target node

/-- The tree without what a path leads to and without all that is in it. -/
def remove (tree : FileTree) (path : String) : FileTree :=
  match tree.locate path with
  | .ok place =>
    { entries := tree.entries.filter fun (known, _) =>
        !(known.levelsUp == place.levelsUp && place.names.isPrefixOf known.names) }
  | .error _ => tree

/-- The tree with a text file written at a path; the directory of the file has to exist. -/
def writeText (tree : FileTree) (path text : String) : Except FileError FileTree := do
  let place ← tree.locate path
  match tree.node? place with
  | some .directory => throw .isDirectory
  | some .sealed => throw .denied
  | some (.file _) => return tree.put place (.file text.toUTF8)
  | none =>
    if path.toList.getLast? == some '/' then throw .isDirectory
    tree.requireDirectory place.parent
    return tree.put place (.file text.toUTF8)

/-- The tree with one directory made, if there was nothing at the path. -/
def createDirectory (tree : FileTree) (path : String) : Except FileError FileTree := do
  let place ← tree.locate path
  match tree.node? place with
  | some .directory => return tree
  | some _ => throw .notDirectory
  | none =>
    tree.requireDirectory place.parent
    return tree.put place .directory

/-- The leading parts of a path, the shortest first, the path itself last. -/
def leadingPaths (path : String) : List String :=
  let segments := Path.segments path
  ((List.range segments.length).map fun n => Path.joinSegments (segments.take (n + 1))).filter
    fun part => !part.isEmpty

/-- The tree with a directory made at a path, and all directories on the way to it. -/
def createDirectories (tree : FileTree) (path : String) : Except FileError FileTree :=
  (leadingPaths path).foldlM createDirectory tree

end FileTree

end LuaHost
