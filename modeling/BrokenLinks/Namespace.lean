import BrokenLinks.Listing
import BrokenLinks.Log.Basic

/-! The markdown pages directly inside one directory.

A link is local when it names one of them. They are found by listing alone, whatever the files
hold. -/

set_option autoImplicit false

namespace BrokenLinks

structure Namespace where
  path : Path
  /-- In the order of their bytes. -/
  names : List String
  deriving DecidableEq, Repr

namespace Finding

def isPage (name : Name) : Bool :=
  name.length > 3 && (Bytes.ofString ".md").isSuffixOf name

def page? : Finding → Option String
  | .entry name .file => if isPage name then Bytes.text? name else none
  | _ => none

def danglingRecord? (finding : Finding) : Option Record :=
  finding.dangling?.map fun link =>
    ⟨.warn, .listings, s!"Skipping dangling symlink: {link.display}"⟩

/-- Warns of what is left out of a namespace though it may look like a page. -/
def record? (directory : Path) : Finding → Option Record
  | .entry name .file =>
    if isPage name && (Bytes.text? name).isNone then
      some ⟨.warn, .listings,
        s!"Skipping file with non UTF-8 name: {(directory.join name).display}"⟩
    else none
  | finding => finding.danglingRecord?

end Finding

namespace Namespace

def contains (pages : Namespace) (fileName : List Char) : Bool :=
  pages.names.contains (String.ofList fileName)

def filePath (pages : Namespace) (name : String) : Path :=
  pages.path.join (Bytes.ofString name)

def load (layout : Layout) (path : Path) : Logged (Except ListingError Namespace) :=
  let listing := layout.list path
  let skipped := listing.found.filterMap (·.record? path)
  match listing.failure? with
  | some error => ⟨skipped, .error error⟩
  | none =>
    let names := listing.found.filterMap (·.page?)
    let found : Record :=
      ⟨.debug, .listings, s!"Found {names.length} markdown files in {path.display}"⟩
    ⟨skipped ++ [found], .ok ⟨path, names⟩⟩

end Namespace

end BrokenLinks
