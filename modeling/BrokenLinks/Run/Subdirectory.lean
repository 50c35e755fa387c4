import BrokenLinks.Documentation
import BrokenLinks.Run.Parallel

/-! The repair of a subdirectory, and of a documentation root one subdirectory at a time. -/

set_option autoImplicit false

namespace BrokenLinks

namespace Run

/-- Tells of a file and adds it to the report; the checkpoint comes first. -/
def recordFile (interval : Interval) (report : SubdirectoryReport) (file : FileReport) :
    Run SubdirectoryReport := do
  let processed := report.totals.filesProcessed + 1
  if processed % interval.val = 0 then
    notify (.checkpoint report.path processed)
  notify (.file file)
  return report.record file

def repairInTurn (config : Config) (pages : Namespace) (report : SubdirectoryReport) :
    Run SubdirectoryReport :=
  pages.names.foldlM (fun report name => do
    recordFile config.interval report (← repairPage pages config.writeMode name)) report

def repairAtOnce (config : Config) (schedule : Schedule) (pages : Namespace)
    (report : SubdirectoryReport) : Run SubdirectoryReport := do
  (← repairTogether pages config.writeMode schedule).foldlM (recordFile config.interval) report

def repairSubdirectory (config : Config) (schedule : Schedule) (path : Path) :
    Run SubdirectoryReport :=
  within (.subdirectory path) do
    let pages ← consult (Namespace.load · path)
    notify (.started pages.path pages.names.length)
    if pages.names.isEmpty then
      record [⟨.debug, .files, s!"No markdown files in {pages.path.display}"⟩]
    let report ←
      if config.parallel then repairAtOnce config schedule pages (.new pages.path)
      else repairInTurn config pages (.new pages.path)
    notify (.finished report.path report.totals)
    return report

/-- Lists the subdirectories first; each of them is listed only when its turn has come. -/
def repairDocumentation (config : Config) (schedules : Path → Schedule)
    (documentation : Documentation) : Run RunReport := do
  let paths ← consult documentation.subdirectories
  paths.foldlM (fun report path => do
    return report.push (← repairSubdirectory config (schedules path) path))
    (.new documentation.root config.isDryRun)

end Run

end BrokenLinks
