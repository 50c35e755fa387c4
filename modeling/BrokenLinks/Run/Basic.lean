import BrokenLinks.Failure
import BrokenLinks.FileTree.Basic
import BrokenLinks.Log.Activity
import BrokenLinks.Report

/-! Runs: computations that change a file tree, tell of their progress and may fail.

A failure ends the run but undoes nothing: the tree as it is then, the notices and the log
records remain. -/

set_option autoImplicit false

namespace BrokenLinks

/-- What a run tells of while it goes on. -/
inductive Notice where
  | started (path : Path) (pages : Nat)
  /-- The next file is the `processed`-th of its subdirectory, a multiple of the interval. -/
  | checkpoint (path : Path) (processed : Nat)
  | file (report : FileReport)
  | finished (path : Path) (totals : Totals)
  deriving DecidableEq, Repr

structure RunState where
  tree : FileTree
  notices : Array Notice
  log : Array LogEntry
  /-- What is going on, the innermost activity first. -/
  activities : List Activity

abbrev Run := EStateM Failure RunState

namespace RunState

def start (tree : FileTree) : RunState := ⟨tree, #[], #[], []⟩

end RunState

namespace Run

def notify (notice : Notice) : Run Unit :=
  modify fun state => { state with notices := state.notices.push notice }

def record (records : List Record) : Run Unit :=
  modify fun state =>
    { state with log := state.log ++ records.map (·.during state.activities) }

/-- Makes the run a part of the activity, which ends with it, failed or not. -/
def within {α : Type} (activity : Activity) (run : Run α) : Run α := fun state =>
  match run { state with activities := activity :: state.activities } with
  | .ok value ended => .ok value { ended with activities := state.activities }
  | .error failure ended => .error failure { ended with activities := state.activities }

def tree : Run FileTree :=
  return (← get).tree

def setTree (tree : FileTree) : Run Unit :=
  modify fun state => { state with tree }

def ofExcept {α : Type} : Except Failure α → Run α
  | .ok value => pure value
  | .error failure => throw failure

def consult {α : Type} (look : Layout → Logged (Except ListingError α)) : Run α := do
  let answer := look (← tree).layout
  record answer.records
  ofExcept (answer.value.mapError .listing)

/-- What a run has come to, and the state in which it leaves everything, failed or not. -/
def settle {α : Type} (run : Run α) (state : RunState) : Except Failure α × RunState :=
  match run.run state with
  | .ok value state => (.ok value, state)
  | .error failure state => (.error failure, state)

end Run

end BrokenLinks
