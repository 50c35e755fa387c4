import BrokenLinks.Command.Options
import BrokenLinks.Command.Printer
import BrokenLinks.Run.Subdirectory

/-! One execution of the command, its options read. -/

set_option autoImplicit false

namespace BrokenLinks.Command

inductive Abort where
  | failure (reason : Failure)
  | rootListing (root : Path) (error : ListingError)
  -- The report holds a path that JSON has no place for.
  | pathNotText
  | output (error : OutputError)
  deriving DecidableEq, Repr

structure Execution (σ : Type) where
  tree : FileTree
  log : Array LogEntry
  output : σ
  result : Except Abort RunReport

namespace Abort

def chain : Abort → List String
  | .failure reason => reason.message :: (reason.cause?.map (·.message)).toList
  | .rootListing root error =>
    s!"failed to list {root.display}" :: error.message ::
      (error.cause?.map (·.message)).toList
  | .pathNotText => ["path contains invalid UTF-8 characters"]
  | .output error => [error.message]

def margin (width : Nat) (text : String) : String :=
  ("\n" ++ String.ofList (List.replicate width ' ')).intercalate
    ((text.toList.splitOn '\n').map String.ofList)

def describeCauses : List String → String
  | [] => ""
  | [cause] => "\n\nCaused by:\n    " ++ margin 4 cause
  | causes => "\n\nCaused by:" ++ String.join (causes.mapIdx fun position cause =>
    s!"\n    {position}: " ++ margin 7 cause)

def describe (abort : Abort) : String :=
  match abort.chain with
  | [] => ""
  | message :: causes => s!"Error: {message}" ++ describeCauses causes ++ "\n"

end Abort

namespace Options

variable {σ : Type}

def style (options : Options) (colour : Bool) : Style :=
  ⟨options.quiet, options.config.isDryRun, colour⟩

def writeLine (sink : Sink σ) (output : σ) (text : String) (report : RunReport) :
    Except Abort RunReport × σ :=
  match sink.writeText output (text ++ "\n") with
  | (.ok (), output) => (.ok report, output)
  | (.error error, output) => (.error (.output error), output)

def writeJson (sink : Sink σ) (output : σ) (report : RunReport) :
    Except Abort RunReport × σ :=
  match report.toJson? with
  | some json => writeLine sink output json.toText report
  | none => (.error .pathNotText, output)

def reportNothing (options : Options) (colour : Bool) (sink : Sink σ) (output : σ) (root : Path) :
    Except Abort RunReport × σ :=
  let report := RunReport.new root options.config.isDryRun
  match options.format with
  | .json => writeJson sink output report
  | .table =>
    let text := Tint.orange.paint colour s!"No subdirectories found in '{root.display}/'."
    writeLine sink output text report

def reportRun (options : Options) (colour : Bool) (sink : Sink σ) (output : σ)
    (notices : List Notice) (outcome : Except Failure RunReport) :
    Except Abort RunReport × σ :=
  match options.format, outcome with
  | .json, .ok report => writeJson sink output report
  | .json, .error failure => (.error (.failure failure), output)
  | .table, outcome =>
    let style := options.style colour
    let printed := Printer.notices sink style ⟨output, none⟩ notices
    match outcome with
    | .error failure => (.error (.failure failure), printed.output)
    | .ok report =>
      match printed.finish sink style report with
      | (.ok (), output) => (.ok report, output)
      | (.error error, output) => (.error (.output error), output)

/-- The subdirectories are listed once to see whether there are any, and once more by the run.
What becomes of the output has no influence on the run. -/
def execute (options : Options) (colour : Bool) (sink : Sink σ) (tree : FileTree) (output : σ) :
    Execution σ :=
  match Documentation.ofRoot tree.layout options.root with
  | .error failure => ⟨tree, #[], output, .error (.failure failure)⟩
  | .ok documentation =>
    let listed := documentation.subdirectories tree.layout
    let log := (listed.records.map (·.during [.command])).toArray
    match listed.value with
    | .error error => ⟨tree, log, output, .error (.rootListing documentation.root error)⟩
    | .ok [] =>
      let (result, output) := options.reportNothing colour sink output documentation.root
      ⟨tree, log, output, result⟩
    | .ok _ =>
      let run := Run.repairDocumentation options.config (fun _ => []) documentation
      let (outcome, state) := run.settle ⟨tree, #[], log, [.command]⟩
      let (result, output) :=
        options.reportRun colour sink output state.notices.toList outcome
      ⟨state.tree, state.log, output, result⟩

end Options

end BrokenLinks.Command
