import BrokenLinks.Bytes

/-! Paths as they are written, before anything is looked up. -/

set_option autoImplicit false

namespace BrokenLinks

abbrev Name := Bytes

structure Path where
  bytes : Bytes
  deriving DecidableEq, Repr

inductive PathComponent where
  | root
  | here
  | name (name : Name)
  deriving DecidableEq, Repr

inductive Step where
  | enter (name : Name)
  /-- A slash at the end: the place reached has to be a directory. -/
  | settle
  deriving DecidableEq, Repr

namespace Path

def ofString (text : String) : Path :=
  ⟨Bytes.ofString text⟩

def display (path : Path) : String :=
  path.bytes.lossy

def isAbsolute (path : Path) : Bool :=
  path.bytes.head? == some Bytes.slash

/-- An absolute name takes the place of the directory. One slash is put between the two unless
the directory is empty or brings its own. -/
def join (directory : Path) (name : Name) : Path :=
  if (Path.mk name).isAbsolute then ⟨name⟩
  else if directory.bytes.isEmpty || directory.bytes.getLast? == some Bytes.slash then
    ⟨directory.bytes ++ name⟩
  else ⟨directory.bytes ++ Bytes.slash :: name⟩

/-- What stands between the slashes; the first piece of an absolute path is empty. -/
def pieces (path : Path) : List Name :=
  path.bytes.splitOn Bytes.slash

def steps (path : Path) : List Step :=
  let names := path.pieces.filter (!·.isEmpty)
  let entered := names.map Step.enter
  if !names.isEmpty && path.bytes.getLast? == some Bytes.slash then entered ++ [.settle]
  else entered

def isHere (name : Name) : Bool :=
  name == [Bytes.dot]

def isParent (name : Name) : Bool :=
  name == [Bytes.dot, Bytes.dot]

/-- Repeated slashes, slashes at the end and dots other than a leading one do not count. -/
def components (path : Path) : List PathComponent :=
  let named (names : List Name) : List PathComponent :=
    (names.filter fun name => !name.isEmpty && !isHere name).map .name
  match path.pieces with
  | [] => []
  | first :: others =>
    if path.isAbsolute then .root :: named others
    else if isHere first then .here :: named others
    else named (first :: others)

def sameAs (first second : Path) : Bool :=
  first.components == second.components

end Path

end BrokenLinks
