import BrokenLinks.Config
import BrokenLinks.Log.Basic

/-! What is going on while a record is made. -/

set_option autoImplicit false

namespace BrokenLinks

inductive Activity where
  | command
  | subdirectory (path : Path)
  | page (directory : Path) (name : String) (mode : WriteMode)
  deriving DecidableEq, Repr

/-- A record and what was going on, the innermost activity first. -/
structure LogEntry where
  record : Record
  activities : List Activity
  deriving DecidableEq, Repr

namespace Record

def during (record : Record) (activities : List Activity) : LogEntry :=
  ⟨record, activities⟩

end Record

namespace Activity

def name : Activity → String
  | .command => "execute"
  | .subdirectory _ => "rewrite_subdirectory"
  | .page _ _ _ => "rewrite_file"

def origin : Activity → Origin
  | .command => .command
  | .subdirectory _ | .page _ _ _ => .files

def level : Activity → Level
  | .command | .subdirectory _ => .debug
  | .page _ _ _ => .trace

def modeName : WriteMode → String
  | .apply => "Apply"
  | .dryRun => "DryRun"

def fields : Activity → List (String × String)
  | .command => []
  | .subdirectory path => [("path", path.display)]
  | .page directory name mode => [
    ("name", name), ("write_mode", modeName mode), ("dir", directory.display)]

end Activity

end BrokenLinks
