import BrokenLinks.FileTree.Layout

/-! File trees: a layout and the contents of its files.

Reading a file consults both; writing to one that exists changes contents alone, so it disturbs
no look-up and no listing. -/

set_option autoImplicit false

namespace BrokenLinks

structure FileTree where
  layout : Layout
  contents : FileId → Bytes

inductive Opened where
  | file (id : FileId)
  | device
  deriving DecidableEq, Repr

namespace Layout

/-- A directory can be opened for reading, but there is nothing in it to read. -/
def openToRead (layout : Layout) (path : Path) : Except AccessError Opened := do
  match ← layout.find .followed path with
  | (_, .file id access) => if access.read then return .file id else throw .permissionDenied
  | (_, .directory access) => if access.read then throw .isADirectory else throw .permissionDenied
  | (_, .device) => return .device
  | (_, .link _) => throw .tooManyLinks

def openToWrite (layout : Layout) (path : Path) : Except AccessError Opened := do
  match ← layout.find .followed path with
  | (_, .file id access) => if access.write then return .file id else throw .permissionDenied
  | (_, .directory _) => throw .isADirectory
  | (_, .device) => return .device
  | (_, .link _) => throw .tooManyLinks

end Layout

namespace FileTree

def read (tree : FileTree) : Opened → Bytes
  | .file id => tree.contents id
  | .device => []

def write (tree : FileTree) (opened : Opened) (bytes : Bytes) : FileTree :=
  match opened with
  | .file id =>
    { tree with contents := fun other => if other = id then bytes else tree.contents other }
  | .device => tree

@[simp] theorem layout_write (tree : FileTree) (opened : Opened) (bytes : Bytes) :
    (tree.write opened bytes).layout = tree.layout := by
  cases opened <;> rfl

def readText (tree : FileTree) (path : Path) : Except AccessError String := do
  let opened ← tree.layout.openToRead path
  match (tree.read opened).text? with
  | some text => return text
  | none => throw .notText

def overwrite (tree : FileTree) (path : Path) (text : String) : Except AccessError FileTree := do
  let opened ← tree.layout.openToWrite path
  return tree.write opened (Bytes.ofString text)

theorem layout_eq_of_overwrite {tree written : FileTree} {path : Path} {text : String}
    (h : tree.overwrite path text = .ok written) : written.layout = tree.layout := by
  unfold overwrite at h
  cases opening : tree.layout.openToWrite path with
  | error cause => simp [opening, bind, Except.bind] at h
  | ok opened =>
    simp only [opening, bind, Except.bind, pure, Except.pure, Except.ok.injEq] at h
    rw [← h, layout_write]

end FileTree

end BrokenLinks
