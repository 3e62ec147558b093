/-
# Files

What stands on a disk, as far as it is known: files with their bytes, and folders. A folder is there
when it is listed or when something stands below it. `FileTree.below` gives everything inside a
folder at any depth.
-/

import ChartQuery.Library.Path

namespace ChartQuery

/-- What stands at a path. -/
inductive Item where
  | file (bytes : List UInt8)
  | folder
  deriving DecidableEq, Repr, Inhabited

/-- A file or folder with its path. -/
structure Source where
  path : Path
  item : Item
  deriving Repr, Inhabited

/-- Known files and folders; of several at one path the last counts. -/
structure FileTree where
  sources : List Source
  deriving Repr, Inhabited

namespace FileTree

/-- The names of a path without points that lead back up, as far as they do not lead out. -/
def settledParts (parts : List Text) : List Text :=
  (parts.foldl
    (fun kept name =>
      match kept with
      | above :: rest => if name = ".." ∧ above ≠ ".." then rest else name :: kept
      | [] => [name])
    []).reverse

/-- A path without points that lead back up. -/
def settled (p : Path) : Path :=
  { p with parts := settledParts p.parts }

/-- A path lies below another one. -/
def isBelow (folder p : Path) : Bool :=
  folder.absolute == p.absolute && folder.parts.isPrefixOf p.parts &&
    folder.parts.length < p.parts.length

/-- What stands at a path. -/
def find (tree : FileTree) (p : Path) : Option Item :=
  let place := settled p
  match tree.sources.reverse.find? fun s => s.path == place with
  | some s => some s.item
  | none => if tree.sources.any fun s => isBelow place s.path then some .folder else none

/-- The folders between a folder and something below it. -/
def foldersBetween (folder p : Path) : List Path :=
  let more := p.parts.drop folder.parts.length
  (List.range (more.length - 1)).map fun count => folder.below (more.take (count + 1))

/-- The paths below a folder, each once. -/
def pathsBelow (tree : FileTree) (folder : Path) : List Path :=
  let inside := (tree.sources.map (·.path)).filter (isBelow folder)
  (inside.flatMap fun p => foldersBetween folder p ++ [p]).eraseDups

/-- Everything below a folder, in order. The paths begin as the folder was written. -/
def below (tree : FileTree) (folder : Path) : List Source :=
  let place := settled folder
  let found := (pathsBelow tree place).filterMap fun p =>
    (tree.find p).map fun item =>
      Source.mk (folder.below (p.parts.drop place.parts.length)) item
  found.mergeSort fun a b => a.path.le b.path

end FileTree

end ChartQuery
