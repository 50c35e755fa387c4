import BrokenLinks.Json
import BrokenLinks.Path

/-! What a run has done, file by file, with counters kept along the way. -/

set_option autoImplicit false

namespace BrokenLinks

structure FileReport where
  name : String
  changes : Nat
  deriving DecidableEq, Repr

structure Totals where
  filesProcessed : Nat
  filesChanged : Nat
  linksChanged : Nat
  deriving DecidableEq, Repr

structure SubdirectoryReport where
  path : Path
  -- In the order of processing.
  files : Array FileReport
  totals : Totals
  deriving DecidableEq, Repr

structure RunReport where
  root : Path
  dryRun : Bool
  subdirectories : Array SubdirectoryReport
  totals : Totals
  deriving DecidableEq, Repr

namespace FileReport

def isChanged (file : FileReport) : Bool :=
  file.changes > 0

def toJson (file : FileReport) : Json :=
  .object [("name", .string file.name), ("changes", .number file.changes)]

end FileReport

namespace Totals

def zero : Totals := ⟨0, 0, 0⟩

def record (totals : Totals) (file : FileReport) : Totals where
  filesProcessed := totals.filesProcessed + 1
  filesChanged := totals.filesChanged + if file.isChanged then 1 else 0
  linksChanged := totals.linksChanged + file.changes

def add (first second : Totals) : Totals where
  filesProcessed := first.filesProcessed + second.filesProcessed
  filesChanged := first.filesChanged + second.filesChanged
  linksChanged := first.linksChanged + second.linksChanged

def members (totals : Totals) : List (String × Json) := [
  ("files_processed", .number totals.filesProcessed),
  ("files_changed", .number totals.filesChanged),
  ("links_changed", .number totals.linksChanged)]

end Totals

namespace SubdirectoryReport

def new (path : Path) : SubdirectoryReport := ⟨path, #[], .zero⟩

def record (report : SubdirectoryReport) (file : FileReport) : SubdirectoryReport :=
  { report with files := report.files.push file, totals := report.totals.record file }

/-- JSON has no place for a path that is not text. -/
def toJson? (report : SubdirectoryReport) : Option Json := do
  let path ← report.path.bytes.text?
  let files := report.files.toList.map (·.toJson)
  return .object ([("path", .string path), ("files", .array files)] ++ report.totals.members)

end SubdirectoryReport

namespace RunReport

def new (root : Path) (dryRun : Bool) : RunReport := ⟨root, dryRun, #[], .zero⟩

def push (report : RunReport) (subdirectory : SubdirectoryReport) : RunReport :=
  { report with
    subdirectories := report.subdirectories.push subdirectory
    totals := report.totals.add subdirectory.totals }

def hasChanges (report : RunReport) : Bool :=
  report.totals.filesChanged > 0

def toJson? (report : RunReport) : Option Json := do
  let root ← report.root.bytes.text?
  let subdirectories ← report.subdirectories.toList.mapM (·.toJson?)
  return .object [
    ("root", .string root),
    ("dry_run", .bool report.dryRun),
    ("subdirectories", .array subdirectories),
    ("totals", .object report.totals.members)]

end RunReport

end BrokenLinks
