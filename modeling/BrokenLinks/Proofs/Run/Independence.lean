import BrokenLinks.Proofs.Run.Course
import Mathlib.Data.List.Perm.Basic

/-! Visits that lead to different files.

Neither of two such visits touches what the other reads, so each repairs its page as if it were
alone, and it does not matter which of them comes first. In a dry run this holds of any visits. -/

set_option autoImplicit false

namespace BrokenLinks

namespace Visit

variable {mode : WriteMode} {layout : Layout} {first second : Visit}

def Apart (layout : Layout) (first second : Visit) : Prop :=
  ∀ file, layout.file? first.path = some file → layout.file? second.path ≠ some file

/-- If the visits are written at all, they are apart. -/
def Independent (mode : WriteMode) (layout : Layout) (first second : Visit) : Prop :=
  mode = .apply → first.Apart layout second

theorem Independent.symm (independent : first.Independent mode layout second) :
    second.Independent mode layout first :=
  fun applied file leads leads' => independent applied file leads' leads

def report (mode : WriteMode) (tree : FileTree) (visit : Visit) : Except Failure FileReport :=
  (visit.pages.repairPage mode tree visit.name).map Prod.fst

theorem report_eq_ok_iff {tree : FileTree} {visit : Visit} {file : FileReport} :
    visit.report mode tree = .ok file ↔
      ∃ written, visit.pages.repairPage mode tree visit.name = .ok (file, written) := by
  unfold report
  cases visit.pages.repairPage mode tree visit.name with
  | error failure => simp [Except.map]
  | ok made => simp [Except.map, Prod.ext_iff]

end Visit

namespace FileTree

variable {mode : WriteMode} {tree tree' : FileTree} {visit : Visit} {visits others : List Visit}

theorem readText_congr {path : Path} (layout : tree'.layout = tree.layout)
    (contents : ∀ file, tree.layout.file? path = some file →
      tree'.contents file = tree.contents file) : tree'.readText path = tree.readText path := by
  unfold readText
  rw [layout]
  cases opening : tree.layout.openToRead path with
  | error cause => rfl
  | ok opened =>
    have leads := Layout.file?_of_open (.inl opening)
    have same : tree'.read opened = tree.read opened := by
      cases opened with
      | file file => exact contents file leads
      | device => rfl
    simp only [bind, Except.bind, same]

theorem readText_replayIn
    (independent : ∀ other ∈ visits, other.Independent mode tree.layout visit) :
    (tree.replayIn mode visits).readText visit.path = tree.readText visit.path := by
  cases mode with
  | dryRun => rfl
  | apply =>
    refine readText_congr rfl fun file leads => ?_
    have untouched : visits.filter (·.leadsTo tree.layout file) = [] := by
      refine List.filter_eq_nil_iff.2 fun other member leadsTo => ?_
      exact independent other member rfl file (by simpa [Visit.leadsTo] using leadsTo) leads
    show (visits.filter _).foldl _ _ = _
    rw [untouched]
    rfl

theorem report_congr (layout : tree'.layout = tree.layout)
    (read : tree'.readText visit.path = tree.readText visit.path) :
    visit.report mode tree' = visit.report mode tree := by
  unfold Visit.report
  cases found : tree.readText visit.path with
  | error cause =>
    rw [Visit.repairPage_of_unreadable found, Visit.repairPage_of_unreadable (read.trans found)]
  | ok text =>
    rw [Visit.repairPage_of_readText found, Visit.repairPage_of_readText (read.trans found)]
    -- Whether a page can be written is settled by the layout.
    have writes : ((visit.pages.write tree' visit.name (visit.repair text)).map fun _ => ()) =
        (visit.pages.write tree visit.name (visit.repair text)).map fun _ => () := by
      unfold Namespace.write overwrite
      rw [layout]
      cases tree.layout.openToWrite (visit.pages.filePath visit.name) <;> rfl
    split
    · revert writes
      cases visit.pages.write tree' visit.name (visit.repair text) <;>
        cases visit.pages.write tree visit.name (visit.repair text) <;> simp [Except.map]
    · rfl

theorem draft_replayIn
    (independent : ∀ other ∈ visits, other.Independent mode tree.layout visit) :
    visit.pages.draft (tree.replayIn mode visits) visit.name =
      visit.pages.draft tree visit.name := by
  unfold Namespace.draft
  rw [← Visit.path, readText_replayIn independent]

theorem report_replayIn
    (independent : ∀ other ∈ visits, other.Independent mode tree.layout visit) :
    visit.report mode (tree.replayIn mode visits) = visit.report mode tree :=
  report_congr (layout_replayIn tree mode visits) (readText_replayIn independent)

theorem replayIn_swap {first second : Visit}
    (independent : first.Independent mode tree.layout second) :
    tree.replayIn mode [first, second] = tree.replayIn mode [second, first] := by
  cases mode with
  | dryRun => rfl
  | apply =>
    show tree.replay _ = tree.replay _
    unfold replay
    congr 1
    funext file
    have apart := independent rfl file
    by_cases leads : tree.layout.file? first.path = some file
    · simp [Visit.leadsTo, leads, apart leads]
    · simp [List.filter_cons, Visit.leadsTo, leads]

theorem replayIn_perm (same : visits.Perm others)
    (independent : visits.Pairwise (Visit.Independent mode tree.layout)) :
    tree.replayIn mode visits = tree.replayIn mode others := by
  induction same generalizing tree with
  | nil => rfl
  | cons visit _ ih =>
    rw [replayIn_cons, ih (by simpa using (List.pairwise_cons.1 independent).2), ← replayIn_cons]
  | swap first second visits =>
    have swapped := replayIn_swap ((List.pairwise_cons.1 independent).1 first (.head _))
    calc tree.replayIn mode ([second, first] ++ visits)
        = (tree.replayIn mode [second, first]).replayIn mode visits := replayIn_append ..
      _ = (tree.replayIn mode [first, second]).replayIn mode visits := by rw [swapped]
      _ = tree.replayIn mode ([first, second] ++ visits) := (replayIn_append ..).symm
  | trans one _ ih ih' =>
    exact (ih independent).trans (ih' ((one.pairwise_iff Visit.Independent.symm).1 independent))

/-- Independent visits in turn come to what each of them comes to alone. -/
theorem repaired_iff {files : List FileReport} {ended : FileTree}
    (independent : visits.Pairwise (Visit.Independent mode tree.layout)) :
    tree.Repaired mode visits files ended ↔
      visits.map (Visit.report mode tree) = files.map .ok ∧
        ended = tree.replayIn mode visits := by
  induction visits generalizing tree files with
  | nil =>
    constructor
    · rintro ⟨⟩
      exact ⟨rfl, (replayIn_nil ended mode).symm⟩
    · rintro ⟨reported, rfl⟩
      rw [List.map_nil, eq_comm, List.map_eq_nil_iff] at reported
      rw [reported, replayIn_nil]
      exact .nil
  | cons visit visits ih =>
    obtain ⟨first, others⟩ := List.pairwise_cons.1 independent
    have alike : visits.map (Visit.report mode (tree.replayIn mode [visit])) =
        visits.map (Visit.report mode tree) :=
      List.map_congr_left fun other member => report_replayIn (by simpa using first other member)
    have step := @ih (tree.replayIn mode [visit]) files.tail (by simpa using others)
    rw [alike, ← replayIn_cons] at step
    constructor
    · intro repaired
      obtain _ | ⟨made, rest⟩ := repaired
      obtain ⟨text, -, -, rfl⟩ := Visit.repairPage_eq_replayIn made
      obtain ⟨reported, left⟩ := step.1 rest
      exact ⟨by simp [Visit.report_eq_ok_iff.2 ⟨_, made⟩, reported], left⟩
    · rintro ⟨reported, left⟩
      obtain _ | ⟨file, files⟩ := files
      · simp at reported
      · rw [List.map_cons, List.map_cons, List.cons.injEq] at reported
        obtain ⟨written, made⟩ := Visit.report_eq_ok_iff.1 reported.1
        obtain ⟨text, -, -, rfl⟩ := Visit.repairPage_eq_replayIn made
        exact .cons made (step.2 ⟨reported.2, left⟩)

end FileTree

end BrokenLinks
