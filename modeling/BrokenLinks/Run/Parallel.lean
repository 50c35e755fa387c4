import BrokenLinks.Run.Page

/-! The pages of a namespace repaired side by side.

Each page is a task of at most two steps, one that reads and one that writes. A schedule says
whose step comes next; between the steps of one task any number of others may be made. -/

set_option autoImplicit false

namespace BrokenLinks

inductive Phase where
  | waiting
  | drafted (repair : Repair)
  | done (outcome : Except Failure FileReport)

structure Task where
  name : String
  phase : Phase

/-- The positions of the tasks whose turn it is, one after the other. -/
abbrev Schedule := List Nat

structure Pool where
  tree : FileTree
  tasks : List Task
  log : Array LogEntry
  -- What the tasks are a part of.
  activities : List Activity

namespace Task

def advance (pages : Namespace) (mode : WriteMode) (tree : FileTree) (task : Task) :
    Logged (FileTree × Phase) :=
  match task.phase with
  | .waiting =>
    match pages.draft tree task.name with
    | .error failure => ⟨[], tree, .done (.error failure)⟩
    | .ok repair =>
      if repair.needsWrite mode then ⟨repair.records, tree, .drafted repair⟩
      else ⟨repair.records, tree, .done (.ok ⟨task.name, repair.changes⟩)⟩
  | .drafted repair =>
    match pages.write tree task.name repair with
    | .error failure => ⟨[], tree, .done (.error failure)⟩
    | .ok written =>
      ⟨[pages.writtenRecord task.name repair], written,
        .done (.ok ⟨task.name, repair.changes⟩)⟩
  | .done outcome => ⟨[], tree, .done outcome⟩

end Task

namespace Pool

def step (pages : Namespace) (mode : WriteMode) (pool : Pool) (position : Nat) : Pool :=
  match pool.tasks[position]? with
  | none => pool
  | some task =>
    let made := task.advance pages mode pool.tree
    let activities := .page pages.path task.name mode :: pool.activities
    { pool with
      tree := made.value.1
      tasks := pool.tasks.set position { task with phase := made.value.2 }
      log := pool.log ++ made.records.map (·.during activities) }

def run (pages : Namespace) (mode : WriteMode) (pool : Pool) (schedule : Schedule) : Pool :=
  schedule.foldl (step pages mode) pool

/-- The reports of tasks that are all done, or the first failure in the order of the tasks. -/
def outcome (pool : Pool) : Except Failure (List FileReport) :=
  (pool.tasks.filterMap fun task =>
    match task.phase with
    | .done outcome => some outcome
    | _ => none).mapM id

end Pool

namespace Schedule

def inOrder (tasks : Nat) : Schedule :=
  (List.range tasks).flatMap fun position => [position, position]

end Schedule

namespace Run

/-- Repairs all pages by the schedule; steps that it leaves out are made after it, so that
every task is done in the end. A single task is part of what the run is doing; several go on
beside it. -/
def repairTogether (pages : Namespace) (mode : WriteMode) (schedule : Schedule) :
    Run (List FileReport) := do
  let state ← get
  let waiting := pages.names.map fun name => (⟨name, .waiting⟩ : Task)
  let activities := if waiting.length ≤ 1 then state.activities else []
  let pool := Pool.run pages mode ⟨state.tree, waiting, state.log, activities⟩
    (schedule ++ .inOrder waiting.length)
  set { state with tree := pool.tree, log := pool.log }
  ofExcept pool.outcome

end Run

end BrokenLinks
