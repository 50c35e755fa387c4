import BrokenLinks.Config

/-! The options of the command, and how each of them is named and given. -/

set_option autoImplicit false

namespace BrokenLinks.Command

inductive OutputFormat where
  | table
  | json
  deriving DecidableEq, Repr

structure Options where
  verbosity : Nat
  root : Path
  dryRun : Bool
  check : Bool
  parallel : Bool
  interval? : Option Interval
  format : OutputFormat
  quiet : Bool
  deriving DecidableEq, Repr

inductive Switch where
  | verbose
  | dryRun
  | check
  | parallel
  | quiet
  | help
  | version
  deriving DecidableEq, Repr

inductive Setting where
  | root
  | interval
  | format
  deriving DecidableEq, Repr

inductive Argument where
  | switch (s : Switch)
  | setting (s : Setting)
  deriving DecidableEq, Repr

namespace Options

def default : Options where
  verbosity := 0
  root := Config.defaultRoot
  dryRun := false
  check := false
  parallel := false
  interval? := none
  format := .table
  quiet := false

def config (options : Options) : Config where
  root := options.root
  writeMode := if options.dryRun || options.check then .dryRun else .apply
  interval := options.interval?.getD Config.defaultInterval
  parallel := options.parallel

end Options

namespace Switch

def name : Switch → String
  | .verbose => "verbose"
  | .dryRun => "dry-run"
  | .check => "check"
  | .parallel => "parallel"
  | .quiet => "quiet"
  | .help => "help"
  | .version => "version"

def isRepeatable (switch : Switch) : Bool :=
  switch = .verbose

def display (switch : Switch) : String :=
  "--" ++ switch.name ++ if switch.isRepeatable then "..." else ""

end Switch

namespace Setting

def name : Setting → String
  | .root => "root"
  | .interval => "progress-interval"
  | .format => "output"

def valueName : Setting → String
  | .root => "ROOT"
  | .interval => "N"
  | .format => "FORMAT"

def display (setting : Setting) : String :=
  s!"--{setting.name} <{setting.valueName}>"

end Setting

namespace Argument

def all : List Argument := [
  .switch .verbose, .setting .root, .switch .dryRun, .switch .check, .switch .parallel,
  .setting .interval, .setting .format, .switch .quiet, .switch .help, .switch .version]

def name : Argument → String
  | .switch s => s.name
  | .setting s => s.name

def display : Argument → String
  | .switch s => s.display
  | .setting s => s.display

def ofName? (name : String) : Option Argument :=
  all.find? (·.name == name)

def ofLetter? : Char → Option Argument
  | 'v' => some (.switch .verbose)
  | 'r' => some (.setting .root)
  | 'q' => some (.switch .quiet)
  | 'h' => some (.switch .help)
  | 'V' => some (.switch .version)
  | _ => none

end Argument

end BrokenLinks.Command
