import BrokenLinks.Command.Sink
import BrokenLinks.Run.Basic

/-! Progress and summary of a run as lines of text.

A notice cannot be answered, so the first error of the sink is kept, nothing is written after
it, and the summary returns it. -/

set_option autoImplicit false

namespace BrokenLinks.Command

inductive Tint where
  | dim
  | green
  | orange
  deriving DecidableEq, Repr

structure Style where
  quiet : Bool
  dryRun : Bool
  colour : Bool
  deriving DecidableEq, Repr

namespace Tint

def opening : Tint → String
  | .dim => "\x1b[2m"
  | .green => "\x1b[38;2;000;128;000m"
  | .orange => "\x1b[38;2;255;165;000m"

def closing : Tint → String
  | .dim => "\x1b[0m"
  | .green | .orange => "\x1b[39m"

def paint (tint : Tint) (colour : Bool) (text : String) : String :=
  if colour then tint.opening ++ text ++ tint.closing else text

end Tint

def totalLines (totals : Totals) : List String := [
  s!"Total files processed: {totals.filesProcessed}",
  s!"Files changed: {totals.filesChanged}",
  s!"Total items modified: {totals.linksChanged}"]

namespace Style

def verb (style : Style) : String :=
  if style.dryRun then "Would modify" else "Modified"

def detail (style : Style) : Notice → List String
  | .started path pages => [
    s!"Processing subdirectory: {path.display}",
    s!"Found {pages} markdown files."]
  | .checkpoint path processed => [
    Tint.dim.paint style.colour s!"... processed {processed} files so far in {path.display}"]
  | .file report =>
    let line := s!"{style.verb} {report.changes} items in {report.name}"
    [if report.isChanged then line else Tint.dim.paint style.colour line]
  | .finished path totals =>
    ["", s!"Subdirectory Summary for {path.display}:"] ++ totalLines totals ++ [""]

def lines (style : Style) (notice : Notice) : List String :=
  if style.quiet then [] else style.detail notice

def summary (style : Style) (report : RunReport) : List String :=
  ["", "All subdirectories processed.", s!"Subdirectories: {report.subdirectories.size}"] ++
    totalLines report.totals ++
    (if report.dryRun then [Tint.dim.paint style.colour "Dry run: no files were written."]
      else []) ++
    [Tint.green.paint style.colour "Ready."]

end Style

structure Printer (σ : Type) where
  output : σ
  error? : Option OutputError

namespace Printer

variable {σ : Type}

def line (sink : Sink σ) (printer : Printer σ) (text : String) : Printer σ :=
  match printer.error? with
  | some _ => printer
  | none =>
    match sink.writeText printer.output (text ++ "\n") with
    | (.ok (), output) => ⟨output, none⟩
    | (.error error, output) => ⟨output, some error⟩

def print (sink : Sink σ) (printer : Printer σ) (texts : List String) : Printer σ :=
  texts.foldl (line sink) printer

def notices (sink : Sink σ) (style : Style) (printer : Printer σ) (notices : List Notice) :
    Printer σ :=
  notices.foldl (fun printer notice => printer.print sink (style.lines notice)) printer

def finish (sink : Sink σ) (style : Style) (printer : Printer σ) (report : RunReport) :
    Except OutputError Unit × σ :=
  let printed := printer.print sink (style.summary report)
  match printed.error? with
  | some error => (.error error, printed.output)
  | none => sink.flush printed.output

end Printer

end BrokenLinks.Command
