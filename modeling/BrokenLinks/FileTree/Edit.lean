import BrokenLinks.FileTree.Basic

/-! Making and removing entries of a file tree, by someone whom no permission restricts. -/

set_option autoImplicit false

namespace BrokenLinks

namespace Access

/-- The last digit of an octal mode: four to read, two to write, one to search. -/
def ofDigit (digit : Nat) : Access :=
  ⟨digit / 4 % 2 = 1, digit / 2 % 2 = 1, digit % 2 = 1⟩

end Access

namespace Node

def withAccess (access : Access) : Node → Node
  | .file id _ => .file id access
  | .directory _ => .directory access
  | node => node

end Node

namespace Layout

def filter (layout : Layout) (keeps : Location → Bool) : Layout where
  entries := layout.entries.filter fun entry => keeps entry.1
  workingDirectory := layout.workingDirectory
  distinct := layout.distinct.sublist (List.filter_sublist.map Prod.fst)

def mapNodes (layout : Layout) (change : Location → Node → Node) : Layout where
  entries := layout.entries.map fun entry => (entry.1, change entry.1 entry.2)
  workingDirectory := layout.workingDirectory
  distinct := by simpa [List.map_map, Function.comp_def] using layout.distinct

def remove (layout : Layout) (place : Location) : Layout :=
  layout.filter fun location => !place.isSuffixOf location

def insert (layout : Layout) (place : Location) (node : Node) : Layout where
  entries := (place, node) :: (layout.remove place).entries
  workingDirectory := layout.workingDirectory
  distinct := by
    simp only [List.map_cons, List.nodup_cons, (layout.remove place).distinct, and_true]
    simp [remove, filter]

def unrestricted (layout : Layout) : Layout :=
  layout.mapNodes fun _ node => node.withAccess .unrestricted

def freshFile (layout : Layout) : FileId :=
  (layout.entries.map fun
    | (_, .file id _) => id + 1
    | _ => 0).foldl Nat.max 0

def ensureDirectories (layout : Layout) :
    Location → List Step → Except AccessError (Layout × Location)
  | place, [] => .ok (layout, place)
  | place, step :: steps => do
    let next ← layout.unrestricted.walkLinks .followed linkLimit place [step]
    match layout.node? next with
    | none => (layout.insert next (.directory .unrestricted)).ensureDirectories next steps
    | some _ => layout.ensureDirectories next steps

def ensureParent (layout : Layout) (path : Path) :
    Except AccessError (Layout × Location × Name) := do
  let (layout, place) ←
    layout.ensureDirectories (start path layout.workingDirectory) path.steps.dropLast
  match path.steps.getLast? with
  | some (.enter name) => return (layout, place, name)
  | _ => throw .isADirectory

end Layout

inductive NewEntry where
  | file (content : Bytes)
  | directory
  | link (target : Path)
  | hardLink (existing : Path)
  deriving DecidableEq, Repr

namespace FileTree

def empty : FileTree where
  layout := {
    entries := [
      ([], .directory .unrestricted),
      ([Bytes.ofString "dev"], .directory .unrestricted),
      ([Bytes.ofString "null", Bytes.ofString "dev"], .device),
      ([Bytes.ofString "work"], .directory .unrestricted)]
    workingDirectory := [Bytes.ofString "work"]
    distinct := by decide }
  contents := fun _ => []

/-- Writes a file as a program would that opens its path: through links, and a new one if
there is none. -/
def putFile (tree : FileTree) (path : Path) (content : Bytes) : Except AccessError FileTree := do
  let (layout, parent, name) ← tree.layout.ensureParent path
  let place ← layout.unrestricted.walkLinks .followed Layout.linkLimit parent [.enter name]
  match layout.node? place with
  | some (.file id _) => return { tree with layout }.write (.file id) content
  | some (.directory _) => throw .isADirectory
  | some _ => return { tree with layout }
  | none =>
    let id := layout.freshFile
    return { tree with layout := layout.insert place (.file id .unrestricted) }.write
      (.file id) content

def put (tree : FileTree) (path : Path) : NewEntry → Except AccessError FileTree
  | .file content => tree.putFile path content
  | .directory => do
    let (layout, _) ← tree.layout.ensureDirectories
      (Layout.start path tree.layout.workingDirectory) path.steps
    return { tree with layout }
  | .link target => do
    let (layout, parent, name) ← tree.layout.ensureParent path
    return { tree with layout := layout.insert (name :: parent) (.link target) }
  | .hardLink existing => do
    let (layout, parent, name) ← tree.layout.ensureParent path
    match ← layout.unrestricted.find .kept existing with
    | (_, .directory _) => throw .isADirectory
    | (_, node) => return { tree with layout := layout.insert (name :: parent) node }

def restrict (tree : FileTree) (path : Path) (access : Access) :
    Except AccessError FileTree := do
  let (place, node) ← tree.layout.unrestricted.find .followed path
  let concerns (location : Location) (other : Node) : Bool :=
    match node, other with
    | .file id _, .file otherId _ => id == otherId
    | _, _ => location == place
  let layout := tree.layout.mapNodes fun location other =>
    if concerns location other then other.withAccess access else other
  return { tree with layout }

def remove (tree : FileTree) (path : Path) : Except AccessError FileTree := do
  let place ← tree.layout.unrestricted.locate .kept path
  return { tree with layout := tree.layout.remove place }

end FileTree

end BrokenLinks
