import BrokenLinks.Command.Arguments
import BrokenLinks.Command.Environment
import BrokenLinks.Command.Execution
import BrokenLinks.Command.Help

/-! The whole command, from its arguments to its exit status. -/

set_option autoImplicit false

namespace BrokenLinks.Command

structure Invocation (σ : Type) where
  tree : FileTree
  log : List Record
  output : σ
  complaints : String
  status : Nat

namespace Options

def status (options : Options) (report : RunReport) : Nat :=
  if options.check && report.hasChanges then 2 else 0

end Options

namespace Stop

def message : Stop → String
  | .help true => fullHelp
  | .help false => briefHelp
  | .version => versionText
  | .usage error => s!"error: {error.message}\n"

end Stop

variable {σ : Type}

/-- What is printed on demand may be refused by the sink without harm. -/
def stop (sink : Sink σ) (tree : FileTree) (output : σ) (reason : Stop) : Invocation σ :=
  match reason with
  | .usage _ => ⟨tree, [], output, reason.message, 2⟩
  | .help _ | .version => ⟨tree, [], (sink.writeText output reason.message).2, "", 0⟩

def invoke (sink : Sink σ) (environment : Environment) (arguments : List Bytes)
    (tree : FileTree) (output : σ) : Invocation σ :=
  match Options.ofArguments arguments with
  | .error reason => stop sink tree output reason
  | .ok options =>
    let settings := options.logSettings environment
    let execution := options.execute environment.colour sink tree output
    let log := (execution.log.toList.filter settings.filter.shows).map (·.record)
    match execution.result with
    | .ok report =>
      ⟨execution.tree, log, execution.output, settings.complaints, options.status report⟩
    | .error abort =>
      ⟨execution.tree, log, execution.output, settings.complaints ++ abort.describe, 1⟩

end BrokenLinks.Command
