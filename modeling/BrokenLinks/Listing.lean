import BrokenLinks.Failure
import BrokenLinks.FileTree.Layout

/-! The entries of one directory, links followed.

Every entry is met on its own, so a listing is a list of findings, and it ends for its reader at
the first one that is a failure. A link to nothing is no failure. -/

set_option autoImplicit false

namespace BrokenLinks

inductive EntryKind where
  | file
  | directory
  | special
  deriving DecidableEq, Repr

inductive Finding where
  | entry (name : Name) (kind : EntryKind)
  | dangling (link : Path)
  | failed (error : ListingError)
  deriving DecidableEq, Repr

namespace Node

def kind : Node → EntryKind
  | .file _ _ => .file
  | .directory _ => .directory
  | .link _ | .device => .special

end Node

namespace Finding

def failure? : Finding → Option ListingError
  | .failed error => some error
  | _ => none

def dangling? : Finding → Option Path
  | .dangling link => some link
  | _ => none

end Finding

namespace Layout

/-- A path that leads to nothing is forgiven if there is a link at it. -/
def unreachable (layout : Layout) (path : Path) (cause : AccessError) : Finding :=
  if cause = .notFound ∧ layout.isLink path then .dangling path
  else .failed (.unreadable path cause)

/-- A link is given the kind of what it leads to. A directory at its end is opened, to make sure
that it is none of the directories that led to the link. -/
def examineLink (layout : Layout) (above : List (Path × Location)) (name : Name) (path : Path) :
    Finding :=
  match layout.find .followed path with
  | .error cause => layout.unreachable path cause
  | .ok (_, .directory _) =>
    match layout.openDirectory path with
    | .error cause => .failed (.indistinct cause)
    | .ok place =>
      match above.find? (·.2 = place) with
      | some (directory, _) => .failed (.loop path directory)
      | none => .entry name .directory
  | .ok (_, node) => .entry name node.kind

def examine (layout : Layout) (directory : Path) (place : Location) (name : Name) :
    Node → Finding
  | .link _ => layout.examineLink [(directory, place)] name (directory.join name)
  | node => .entry name node.kind

/-- The entries of the directory at a path, in the order of their names. A file there has no
entries, which is no failure, and neither is a link to nothing. -/
def findings (layout : Layout) (path : Path) : List Finding :=
  let entries : List Finding :=
    match layout.openDirectory path with
    | .error cause => [.failed (.unreadable path cause)]
    | .ok place =>
      (layout.children place).map fun (name, node) => layout.examine path place name node
  match layout.find .kept path with
  | .error cause => [layout.unreachable path cause]
  | .ok (_, .directory _) => entries
  | .ok (_, .link _) =>
    match layout.examineLink [] [] path with
    | .entry _ .directory => entries
    | .entry _ _ => []
    | finding => [finding]
  | .ok _ => []

end Layout

structure Listing where
  found : List Finding
  failure? : Option ListingError

namespace Listing

def ofFindings (findings : List Finding) : Listing where
  found := findings.takeWhile (·.failure?.isNone)
  failure? := findings.findSome? (·.failure?)

def entries (listing : Listing) : List (Name × EntryKind) :=
  listing.found.filterMap fun
    | .entry name kind => some (name, kind)
    | _ => none

end Listing

namespace Layout

def list (layout : Layout) (path : Path) : Listing :=
  .ofFindings (layout.findings path)

end Layout

end BrokenLinks
