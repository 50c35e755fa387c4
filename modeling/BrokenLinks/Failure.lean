import BrokenLinks.AccessError
import BrokenLinks.Path

/-! Reasons why a run cannot start or stops. -/

set_option autoImplicit false

namespace BrokenLinks

inductive ListingError where
  | unreadable (path : Path) (cause : AccessError)
  /-- A link leads to a directory that cannot be told from the one being listed, since it cannot
  be opened. The path is not known any more. -/
  | indistinct (cause : AccessError)
  | loop (link directory : Path)
  deriving DecidableEq, Repr

inductive Failure where
  | missingRoot (root : Path)
  | rootNotDirectory (root : Path)
  | listing (error : ListingError)
  | reading (path : Path) (cause : AccessError)
  | writing (path : Path) (cause : AccessError)
  deriving DecidableEq, Repr

namespace ListingError

def message : ListingError → String
  | .unreadable path cause => s!"IO error for operation on {path.display}: {cause.message}"
  | .indistinct cause => cause.message
  | .loop link directory =>
    s!"File system loop found: {link.display} points to an ancestor {directory.display}"

def cause? : ListingError → Option AccessError
  | .unreadable _ cause | .indistinct cause => some cause
  | .loop _ _ => none

end ListingError

namespace Failure

def message : Failure → String
  | .missingRoot root => s!"documentation root '{root.display}' does not exist"
  | .rootNotDirectory root => s!"documentation root '{root.display}' is not a directory"
  | .listing error => error.message
  | .reading path _ => s!"failed to read '{path.display}'"
  | .writing path _ => s!"failed to write '{path.display}'"

def cause? : Failure → Option AccessError
  | .missingRoot _ | .rootNotDirectory _ => none
  | .listing error => error.cause?
  | .reading _ cause | .writing _ cause => some cause

end Failure

end BrokenLinks
