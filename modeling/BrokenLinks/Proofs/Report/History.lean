import BrokenLinks.Proofs.Report.Counters
import Mathlib.Data.List.DropRight

/-! Reports under any sequence of the actions that change them.

There is one run, and at most one subdirectory whose report is open. What the reports come to is
read off the sequence of actions afterwards, without counting along: the counters are then those of
the files that were recorded. -/

set_option autoImplicit false

namespace BrokenLinks

inductive ReportAction where
  /-- Opens an empty report. One that is still open is dropped. -/
  | begin (path : Path)
  | record (file : FileReport)
  | push
  | pushCopy
  deriving DecidableEq, Repr

/-! ### What the actions do -/

structure Reports where
  run : RunReport
  current? : Option SubdirectoryReport
  deriving DecidableEq, Repr

namespace Reports

def start (root : Path) (dryRun : Bool) : Reports := ⟨.new root dryRun, none⟩

/-- Without an open report there is nothing to record in and nothing to push. -/
def step (reports : Reports) : ReportAction → Option Reports
  | .begin path => some { reports with current? := some (.new path) }
  | .record file => do
    let current ← reports.current?
    return { reports with current? := some (current.record file) }
  | .push => do
    let current ← reports.current?
    return ⟨reports.run.push current, none⟩
  | .pushCopy => do
    let current ← reports.current?
    return { reports with run := reports.run.push current }

def perform (reports : Reports) (actions : List ReportAction) : Option Reports :=
  actions.foldlM step reports

end Reports

/-! ### What the actions record -/

structure Recorded where
  path : Path
  files : List FileReport
  deriving DecidableEq, Repr

def Recorded.report (recorded : Recorded) : SubdirectoryReport :=
  ⟨recorded.path, recorded.files.toArray, .ofFiles recorded.files⟩

namespace ReportAction

def file? : ReportAction → Option FileReport
  | record file => some file
  | _ => none

def keepsOpen : ReportAction → Bool
  | record _ | pushCopy => true
  | begin _ | push => false

def hands : ReportAction → Bool
  | push | pushCopy => true
  | begin _ | record _ => false

def needsOpen : ReportAction → Bool
  | begin _ => false
  | record _ | push | pushCopy => true

end ReportAction

/-- What is open after the actions: the subdirectory begun last, unless it was pushed since, with
the files recorded since. -/
def openAfter? (actions : List ReportAction) : Option Recorded :=
  match (actions.rdropWhile ReportAction.keepsOpen).getLast? with
  | some (.begin path) =>
    some ⟨path, (actions.rtakeWhile ReportAction.keepsOpen).filterMap ReportAction.file?⟩
  | _ => none

/-- What is pushed in the course of the actions, each as it is open before the action that pushes
it. -/
def pushedBy (actions : List ReportAction) : List Recorded :=
  (List.range actions.length).filterMap fun position =>
    if actions[position]?.any ReportAction.hands then openAfter? (actions.take position) else none

def InTurn (actions : List ReportAction) : Prop :=
  ∀ position < actions.length, actions[position]?.any ReportAction.needsOpen →
    (openAfter? (actions.take position)).isSome

instance (actions : List ReportAction) : Decidable (InTurn actions) :=
  inferInstanceAs (Decidable (∀ position < actions.length, _))

@[simp] theorem openAfter?_begin (actions : List ReportAction) (path : Path) :
    openAfter? (actions ++ [.begin path]) = some ⟨path, []⟩ := by
  simp [openAfter?, ReportAction.keepsOpen]

@[simp] theorem openAfter?_push (actions : List ReportAction) :
    openAfter? (actions ++ [.push]) = none := by
  simp [openAfter?, ReportAction.keepsOpen]

theorem openAfter?_of_keepsOpen {action : ReportAction} (keeps : action.keepsOpen)
    (actions : List ReportAction) :
    openAfter? (actions ++ [action]) = (openAfter? actions).map fun recorded =>
      ⟨recorded.path, recorded.files ++ action.file?.toList⟩ := by
  simp only [openAfter?, List.rdropWhile_concat_pos _ _ _ keeps,
    List.rtakeWhile_concat_pos _ _ _ keeps, List.filterMap_append]
  split
  · cases action <;> rfl
  · rfl

@[simp] theorem openAfter?_record (actions : List ReportAction) (file : FileReport) :
    openAfter? (actions ++ [.record file]) =
      (openAfter? actions).map fun recorded => ⟨recorded.path, recorded.files ++ [file]⟩ :=
  openAfter?_of_keepsOpen rfl actions

@[simp] theorem openAfter?_pushCopy (actions : List ReportAction) :
    openAfter? (actions ++ [.pushCopy]) = openAfter? actions := by
  rw [openAfter?_of_keepsOpen rfl]
  simp [ReportAction.file?]

theorem pushedBy_concat (actions : List ReportAction) (action : ReportAction) :
    pushedBy (actions ++ [action]) =
      pushedBy actions ++ if action.hands then (openAfter? actions).toList else [] := by
  -- What comes after a position decides neither the action there nor what is open before it.
  have before : ∀ position ∈ List.range actions.length,
      (if (actions ++ [action])[position]?.any ReportAction.hands then
        openAfter? ((actions ++ [action]).take position) else none) =
      if actions[position]?.any ReportAction.hands then
        openAfter? (actions.take position) else none := by
    intro position inside
    have inside := List.mem_range.1 inside
    rw [List.getElem?_append_left inside, List.take_append_of_le_length inside.le]
  rw [pushedBy, List.length_append, List.length_singleton, List.range_succ, List.filterMap_append,
    List.filterMap_congr before, ← pushedBy]
  cases handed : action.hands with
  | false => simp [handed]
  | true => cases current : openAfter? actions <;> simp [handed, current]

theorem InTurn.of_concat {actions : List ReportAction} {action : ReportAction}
    (turn : InTurn (actions ++ [action])) :
    InTurn actions ∧ (action.needsOpen → (openAfter? actions).isSome) := by
  refine ⟨fun position inside => ?_, ?_⟩
  · have turnThere := turn position (by simp; omega)
    rwa [List.getElem?_append_left inside, List.take_append_of_le_length inside.le] at turnThere
  · simpa using turn actions.length (by simp)

/-! ### The counters -/

namespace Recorded

@[simp] theorem report_empty (path : Path) : report ⟨path, []⟩ = .new path := rfl

@[simp] theorem record_report (recorded : Recorded) (file : FileReport) :
    recorded.report.record file = report ⟨recorded.path, recorded.files ++ [file]⟩ := by
  simp [report, SubdirectoryReport.record, Totals.ofFiles_concat]

end Recorded

namespace Reports

def runOf (root : Path) (dryRun : Bool) (pushed : List Recorded) : RunReport where
  root := root
  dryRun := dryRun
  subdirectories := (pushed.map Recorded.report).toArray
  totals := .ofFiles (pushed.flatMap Recorded.files)

@[simp] theorem push_runOf (root : Path) (dryRun : Bool) (pushed : List Recorded)
    (recorded : Recorded) :
    (runOf root dryRun pushed).push recorded.report = runOf root dryRun (pushed ++ [recorded]) := by
  simp [runOf, RunReport.push, Recorded.report, Totals.ofFiles_append]

variable (root : Path) (dryRun : Bool)

def ofHistory (actions : List ReportAction) : Reports :=
  ⟨runOf root dryRun (pushedBy actions), (openAfter? actions).map Recorded.report⟩

theorem step_ofHistory {actions : List ReportAction} {action : ReportAction}
    (turn : action.needsOpen → (openAfter? actions).isSome) :
    (ofHistory root dryRun actions).step action =
      some (ofHistory root dryRun (actions ++ [action])) := by
  cases action with
  | begin path => simp [ofHistory, step, pushedBy_concat, ReportAction.hands]
  | record file =>
    obtain ⟨recorded, current⟩ := Option.isSome_iff_exists.1 (turn rfl)
    simp [ofHistory, step, pushedBy_concat, ReportAction.hands, current]
  | push =>
    obtain ⟨recorded, current⟩ := Option.isSome_iff_exists.1 (turn rfl)
    simp [ofHistory, step, pushedBy_concat, ReportAction.hands, current]
  | pushCopy =>
    obtain ⟨recorded, current⟩ := Option.isSome_iff_exists.1 (turn rfl)
    simp [ofHistory, step, pushedBy_concat, ReportAction.hands, current]

theorem perform_eq_ofHistory {actions : List ReportAction} (turn : InTurn actions) :
    (start root dryRun).perform actions = some (ofHistory root dryRun actions) := by
  induction actions using List.reverseRecOn with
  | nil => rfl
  | append_singleton actions action ih =>
    obtain ⟨turn, turnLast⟩ := turn.of_concat
    have before := ih turn
    rw [perform] at before ⊢
    rw [List.foldlM_append, before]
    simpa using step_ofHistory root dryRun turnLast

/-- Whatever the reports go through, their counters are those of the files recorded in them. A copy
counts each time that it is pushed, with the files it had then. -/
theorem counters_agree {actions : List ReportAction} (turn : InTurn actions) :
    ∃ reports, (start root dryRun).perform actions = some reports ∧
      reports.current? = (openAfter? actions).map Recorded.report ∧
      reports.run.root = root ∧ reports.run.dryRun = dryRun ∧
      reports.run.subdirectories.toList = (pushedBy actions).map Recorded.report ∧
      reports.run.totals = .ofFiles ((pushedBy actions).flatMap Recorded.files) ∧
      (reports.run.hasChanges ↔
        ∃ recorded ∈ pushedBy actions, ∃ file ∈ recorded.files, 0 < file.changes) ∧
      (reports.run.hasChanges ↔ 0 < reports.run.totals.linksChanged) := by
  have changes : (runOf root dryRun (pushedBy actions)).hasChanges ↔
      ∃ file ∈ (pushedBy actions).flatMap Recorded.files, 0 < file.changes :=
    decide_eq_true_iff.trans Totals.filesChanged_ofFiles_pos_iff
  refine ⟨_, perform_eq_ofHistory root dryRun turn, rfl, rfl, rfl, by simp [ofHistory, runOf], rfl,
    changes.trans ?_, changes.trans Totals.linksChanged_ofFiles_pos_iff.symm⟩
  simp only [List.mem_flatMap]
  tauto

def copiesPushed : List ReportAction := [
  .begin (.ofString "docs/a"), .record ⟨"Q1.md", 2⟩, .pushCopy, .record ⟨"Q2.md", 0⟩, .pushCopy,
  .record ⟨"Q3.md", 5⟩, .begin (.ofString "docs/b"), .push, .begin (.ofString "docs/c"),
  .record ⟨"Q4.md", 1⟩]

theorem counters_agree_copies_pushed :
    InTurn copiesPushed ∧
      ∃ reports, (start (.ofString "docs") false).perform copiesPushed = some reports ∧
        reports.run.subdirectories.toList.map (fun report => report.files.toList.length) =
          [1, 2, 0] ∧
        reports.run.totals = ⟨3, 2, 4⟩ ∧ reports.run.hasChanges ∧
        reports.current?.map SubdirectoryReport.totals = some ⟨1, 1, 1⟩ := by
  have turn : InTurn copiesPushed := by decide
  obtain ⟨reports, performed, current, -, -, subdirectories, totals, changed, -⟩ :=
    counters_agree (.ofString "docs") false turn
  have pushed : (pushedBy copiesPushed).map Recorded.files =
      [[⟨"Q1.md", 2⟩], [⟨"Q1.md", 2⟩, ⟨"Q2.md", 0⟩], []] := rfl
  refine ⟨turn, reports, performed, ?_, ?_, ?_, ?_⟩
  · rw [subdirectories]
    rfl
  · rw [totals, List.flatMap, pushed]
    rfl
  · exact changed.2 ⟨⟨.ofString "docs/a", [⟨"Q1.md", 2⟩]⟩, List.mem_cons_self, ⟨"Q1.md", 2⟩,
      List.mem_cons_self, by decide⟩
  · rw [current]
    rfl

end Reports

end BrokenLinks
