import BrokenLinks.Config
import BrokenLinks.Namespace
import BrokenLinks.Repair
import BrokenLinks.Run.Basic

/-! The repair of one page of a namespace: it is read once, and then perhaps written once. -/

set_option autoImplicit false

namespace BrokenLinks

namespace Namespace

def draft (pages : Namespace) (tree : FileTree) (name : String) : Except Failure Repair :=
  match tree.readText (pages.filePath name) with
  | .ok text => .ok (.ofText pages.contains text.toList)
  | .error cause => .error (.reading (pages.filePath name) cause)

def write (pages : Namespace) (tree : FileTree) (name : String) (repair : Repair) :
    Except Failure FileTree :=
  match tree.overwrite (pages.filePath name) (String.ofList repair.text) with
  | .ok written => .ok written
  | .error cause => .error (.writing (pages.filePath name) cause)

def writtenRecord (pages : Namespace) (name : String) (repair : Repair) : Record :=
  ⟨.info, .files, s!"Rewrote {repair.changes} links in {(pages.filePath name).display}"⟩

end Namespace

namespace Repair

/-- A page without changes is left alone, and a dry run leaves alone every page. -/
def needsWrite (repair : Repair) (mode : WriteMode) : Bool :=
  repair.isChanged && mode = .apply

end Repair

namespace Run

def repairPage (pages : Namespace) (mode : WriteMode) (name : String) : Run FileReport :=
  within (.page pages.path name mode) do
    let repair ← ofExcept (pages.draft (← tree) name)
    record repair.records
    if repair.needsWrite mode then
      setTree (← ofExcept (pages.write (← tree) name repair))
      record [pages.writtenRecord name repair]
    return ⟨name, repair.changes⟩

end Run

end BrokenLinks
