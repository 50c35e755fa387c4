import BrokenLinks.Listing
import BrokenLinks.Log.Basic
import BrokenLinks.Namespace

/-! A documentation root, whose immediate subdirectories are processed one by one. -/

set_option autoImplicit false

namespace BrokenLinks

/-- A root that was a directory when it was opened. -/
structure Documentation where
  root : Path
  deriving DecidableEq, Repr

namespace Documentation

def ofRoot (layout : Layout) (root : Path) : Except Failure Documentation :=
  match layout.find .followed root with
  | .ok (_, .directory _) => .ok ⟨root⟩
  | .ok _ => .error (.rootNotDirectory root)
  | .error .notFound => .error (.missingRoot root)
  | .error cause => .error (.reading root cause)

def subdirectories (documentation : Documentation) (layout : Layout) :
    Logged (Except ListingError (List Path)) :=
  let listing := layout.list documentation.root
  let skipped := listing.found.filterMap (·.danglingRecord?)
  match listing.failure? with
  | some error => ⟨skipped, .error error⟩
  | none =>
    let directories := listing.entries.filter (·.2 = .directory)
    ⟨skipped, .ok (directories.map fun (name, _) => documentation.root.join name)⟩

end Documentation

end BrokenLinks
