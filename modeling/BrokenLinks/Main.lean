import BrokenLinks.Command.Invocation
import BrokenLinks.FileTree.Changes
import BrokenLinks.FileTree.Edit

/-! The command, on the files that standard input names, one path a line.

A path that ends in a slash names a directory. Files that the command changes are written back
once it has ended. -/

set_option autoImplicit false

namespace BrokenLinks.Main

partial def readLines (input : IO.FS.Stream) (lines : Array String) : IO (Array String) := do
  let line ← input.getLine
  if line.isEmpty then return lines
  readLines input (lines.push (String.ofList (line.toList.takeWhile (· != '\n'))))

def addEntry (tree : FileTree) (path : String) : IO FileTree := do
  let entry ←
    if path.endsWith "/" then pure NewEntry.directory
    else do
      let content ← IO.FS.readBinFile path
      pure (NewEntry.file content.toList)
  match tree.put (Path.ofString path) entry with
  | .ok tree => return tree
  | .error cause => throw (IO.userError s!"{path}: {cause.message}")

def lookUp (name : String) : IO (Option (String × String)) := do
  return (← IO.getEnv name).map (name, ·)

def writeBack (path : Path) (content : Bytes) : IO Unit :=
  match path.bytes.text? with
  | some name => IO.FS.writeBinFile name ⟨content.toArray⟩
  | none => return

def run (arguments : List String) : IO UInt32 := do
  let paths ← readLines (← IO.getStdin) #[]
  let tree ← paths.foldlM addEntry FileTree.empty
  let pairs ← ["RUST_LOG", "FORCE_COLOR"].filterMapM lookUp
  let made := Command.invoke .collecting (.ofVariables pairs)
    (arguments.map Bytes.ofString) tree #[]
  (← IO.getStdout).write ⟨made.output⟩
  for record in made.log do
    IO.eprintln s!"{record.level.name} {record.text}"
  IO.eprint made.complaints
  for (path, content) in tree.changedFiles made.tree do
    writeBack path content
  return made.status.toUInt32

end BrokenLinks.Main

def main (arguments : List String) : IO UInt32 :=
  BrokenLinks.Main.run arguments
