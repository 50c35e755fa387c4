import BrokenLinks.FileTree.Basic

/-! What differs between two states of a file tree that have the same layout. -/

set_option autoImplicit false

namespace BrokenLinks

namespace Layout

def relativePath? (layout : Layout) (place : Location) : Option Path :=
  if layout.workingDirectory.isSuffixOf place then
    let names := (place.take (place.length - layout.workingDirectory.length)).reverse
    some ⟨[Bytes.slash].intercalate names⟩
  else none

/-- The regular files inside the working directory, once under each of their names, in the
order of their paths. No link is followed. -/
def files (layout : Layout) : List (Path × FileId) :=
  let found := layout.entries.filterMap fun
    | (place, .file id _) => (layout.relativePath? place).map (·, id)
    | _ => none
  found.mergeSort fun first second => first.1.bytes ≤ second.1.bytes

end Layout

namespace FileTree

def changedFiles (before after : FileTree) : List (Path × Bytes) :=
  after.layout.files.filterMap fun (path, id) =>
    if before.contents id = after.contents id then none else some (path, after.contents id)

end FileTree

end BrokenLinks
