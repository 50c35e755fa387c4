import BrokenLinks.AccessError
import BrokenLinks.Path

/-! Where the directories, files and links of a file tree are, without the files' contents.

A layout is a finite map from locations to nodes. Hard links are locations that hold the same
file; a symbolic link holds an unchecked path. Paths are looked up by walking from the working
directory, or from the root, one step at a time. -/

set_option autoImplicit false

namespace BrokenLinks

abbrev FileId := Nat

/-- The names of the directories on the way to a place, the innermost first. -/
abbrev Location := List Name

/-- What may be done with a file or a directory. To search a directory is to look up names in
it. -/
structure Access where
  read : Bool
  write : Bool
  search : Bool
  deriving DecidableEq, Repr

namespace Access

def unrestricted : Access := ⟨true, true, true⟩

end Access

inductive Node where
  | file (id : FileId) (access : Access)
  | directory (access : Access)
  | link (target : Path)
  -- A special file that reads as empty and keeps nothing.
  | device
  deriving DecidableEq, Repr

inductive Ending where
  | followed
  | kept
  deriving DecidableEq, Repr

structure Layout where
  entries : List (Location × Node)
  workingDirectory : Location
  -- One node at each location.
  distinct : (entries.map Prod.fst).Nodup

namespace Layout

def node? (layout : Layout) (location : Location) : Option Node :=
  layout.entries.lookup location

def children (layout : Layout) (directory : Location) : List (Name × Node) :=
  let named := layout.entries.filterMap fun
    | (name :: parent, node) => if parent = directory then some (name, node) else none
    | ([], _) => none
  named.mergeSort fun first second => first.1 ≤ second.1

def nameLimit : Nat := 255

def pathLimit : Nat := 4095

def linkLimit : Nat := 40

def start (path : Path) (directory : Location) : Location :=
  if path.isAbsolute then [] else directory

/-- Takes the steps from a place on. A link in the way is handed over, with the directory that
holds it and the steps that remain after its target. -/
def walk (layout : Layout) (ending : Ending)
    (follow : Path → Location → List Step → Except AccessError Location) :
    Location → List Step → Except AccessError Location
  | place, [] => .ok place
  | place, step :: steps =>
    match layout.node? place, step with
    | none, _ => .error .notFound
    | some (.directory _), .settle => walk layout ending follow place steps
    | some (.directory access), .enter name =>
      -- Leaving a directory, or staying in it, takes the same permission as going deeper.
      if !access.search then .error .permissionDenied
      else if Path.isHere name then walk layout ending follow place steps
      else if Path.isParent name then walk layout ending follow place.tail steps
      else if name.length > nameLimit then .error .nameTooLong
      else
        match layout.node? (name :: place) with
        | some (.link target) =>
          -- With steps still to take, a slash at the end included, every link is followed.
          if steps.isEmpty ∧ ending = .kept then .ok (name :: place)
          else follow target place steps
        | _ => walk layout ending follow (name :: place) steps
    | some _, _ => .error .notADirectory

def walkLinks (layout : Layout) (ending : Ending) :
    Nat → Location → List Step → Except AccessError Location
  | 0 => layout.walk ending fun _ _ _ => .error .tooManyLinks
  | links + 1 => layout.walk ending fun target directory steps =>
    walkLinks layout ending links (start target directory) (target.steps ++ steps)

/-- The place that a path names, whether or not anything is there; all places on the way to it
are directories. -/
def locate (layout : Layout) (ending : Ending) (path : Path) : Except AccessError Location :=
  if path.bytes.contains 0 then .error .zeroByte
  else if path.bytes.isEmpty then .error .notFound
  else if path.bytes.length > pathLimit then .error .nameTooLong
  else
    layout.walkLinks ending linkLimit (start path layout.workingDirectory) path.steps

def find (layout : Layout) (ending : Ending) (path : Path) :
    Except AccessError (Location × Node) := do
  let place ← layout.locate ending path
  match layout.node? place with
  | none => throw .notFound
  | some node => return (place, node)

def isLink (layout : Layout) (path : Path) : Bool :=
  match layout.find .kept path with
  | .ok (_, .link _) => true
  | _ => false

def file? (layout : Layout) (path : Path) : Option FileId :=
  match layout.find .followed path with
  | .ok (_, .file id _) => some id
  | _ => none

def openDirectory (layout : Layout) (path : Path) : Except AccessError Location := do
  match ← layout.find .followed path with
  | (place, .directory access) =>
    if access.read then return place else throw .permissionDenied
  | _ => throw .notADirectory

end Layout

end BrokenLinks
