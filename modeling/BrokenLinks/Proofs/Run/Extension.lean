import BrokenLinks.Proofs.FileTree.Dangling
import BrokenLinks.Proofs.Run.Course

/-! Repairs in a tree to which symbolic links have been added.

Every page leads to the file that it led to, so a visit reads, writes and reports what it did
without the links. A sequence of subdirectories is completed as it was, or stops at the first that
can no longer be listed. -/

set_option autoImplicit false

namespace BrokenLinks

namespace FileTree

def withLayout (tree : FileTree) (layout : Layout) : FileTree :=
  { tree with layout }

variable {tree written ended : FileTree} {extended : Layout} {links : List AddedLink} {path : Path}
  {opened : Opened} {text : String} {mode : WriteMode}

@[simp] theorem layout_withLayout (tree : FileTree) (layout : Layout) :
    (tree.withLayout layout).layout = layout := rfl

@[simp] theorem read_withLayout (tree : FileTree) (layout : Layout) (opened : Opened) :
    (tree.withLayout layout).read opened = tree.read opened := by
  cases opened <;> rfl

@[simp] theorem write_withLayout (tree : FileTree) (layout : Layout) (opened : Opened)
    (bytes : Bytes) :
    (tree.withLayout layout).write opened bytes = (tree.write opened bytes).withLayout layout := by
  cases opened <;> rfl

end FileTree

namespace Layout.Gains

variable {layout extended : Layout} {links : List AddedLink} {path : Path} {opened : Opened}

theorem openToRead (gains : layout.Gains links extended)
    (opens : layout.openToRead path = .ok opened) : extended.openToRead path = .ok opened := by
  cases found : layout.find .followed path with
  | error cause => simp [Layout.openToRead, found, bind, Except.bind] at opens
  | ok reached =>
    simpa only [Layout.openToRead, found, gains.find_followed found] using opens

theorem openToWrite (gains : layout.Gains links extended)
    (opens : layout.openToWrite path = .ok opened) : extended.openToWrite path = .ok opened := by
  cases found : layout.find .followed path with
  | error cause => simp [Layout.openToWrite, found, bind, Except.bind] at opens
  | ok reached =>
    simpa only [Layout.openToWrite, found, gains.find_followed found] using opens

end Layout.Gains

namespace FileTree

variable {tree written ended : FileTree} {extended : Layout} {links : List AddedLink} {path : Path}
  {text : String} {mode : WriteMode}

theorem readText_withLayout (gains : tree.layout.Gains links extended)
    (found : tree.readText path = .ok text) :
    (tree.withLayout extended).readText path = .ok text := by
  obtain ⟨opened, opens, holds⟩ := readText_eq_ok_iff.1 found
  exact readText_eq_ok_iff.2 ⟨opened, gains.openToRead opens, by rwa [read_withLayout]⟩

theorem overwrite_withLayout (gains : tree.layout.Gains links extended)
    (wrote : tree.overwrite path text = .ok written) :
    (tree.withLayout extended).overwrite path text = .ok (written.withLayout extended) := by
  cases opens : tree.layout.openToWrite path with
  | error cause => simp [overwrite, opens, bind, Except.bind] at wrote
  | ok opened =>
    simp only [overwrite, opens, bind, Except.bind, pure, Except.pure, Except.ok.injEq] at wrote
    simp [overwrite, gains.openToWrite opens, bind, Except.bind, pure, Except.pure, ← wrote]

theorem repairPage_withLayout (gains : tree.layout.Gains links extended) {visit : Visit}
    {file : FileReport}
    (done : visit.pages.repairPage mode tree visit.name = .ok (file, written)) :
    visit.pages.repairPage mode (tree.withLayout extended) visit.name =
      .ok (file, written.withLayout extended) := by
  obtain ⟨text, found, reported, wrote⟩ := Visit.repairPage_eq_ok_iff.1 done
  refine Visit.repairPage_eq_ok_iff.2 ⟨text, readText_withLayout gains found, reported, ?_⟩
  split
  case isTrue needed =>
    rw [if_pos needed] at wrote
    have overwrote := overwrite_withLayout gains (Visit.write_eq wrote)
    unfold Namespace.write
    rw [show visit.pages.filePath visit.name = visit.path from rfl, overwrote]
  case isFalse needless =>
    rw [if_neg needless] at wrote
    rw [wrote]

theorem Repaired.withLayout {visits : List Visit} {files : List FileReport}
    (gains : tree.layout.Gains links extended)
    (repaired : tree.Repaired mode visits files ended) :
    (tree.withLayout extended).Repaired mode visits files (ended.withLayout extended) := by
  induction repaired with
  | nil => exact .nil
  | cons step _ ih =>
    obtain ⟨-, -, -, rfl⟩ := Visit.repairPage_eq_replayIn step
    exact .cons (repairPage_withLayout gains step) (ih (by rwa [layout_replayIn]))

theorem Processed.withLayout {namespaces : List Namespace} {reports : List SubdirectoryReport}
    (gains : tree.layout.Gains links extended)
    (processed : tree.Processed mode namespaces reports ended) :
    (tree.withLayout extended).Processed mode namespaces reports (ended.withLayout extended) := by
  induction processed with
  | nil => exact .nil
  | cons repaired _ ih =>
    exact .cons (repaired.withLayout gains) (ih (by rwa [repaired.layout]))

theorem Processed.subdirectoriesStory_stops {config : Config} {paths : List Path}
    {namespaces : List Namespace} {reports : List SubdirectoryReport}
    (gains : tree.layout.Gains links extended)
    (processed : tree.Processed config.writeMode namespaces reports ended)
    (loaded : paths.mapM (fun path => (Namespace.load tree.layout path).value) = .ok namespaces)
    (kept : ∀ path ∈ paths, ∀ pages, (Namespace.load extended path).value = .ok pages →
      (Namespace.load tree.layout path).value = .ok pages)
    (stops : ∃ path ∈ paths, ¬extended.Lists path) (report : RunReport) :
    ∃ error, (subdirectoriesStory (subdirectoryStory (Namespace.storyInTurn config)) paths report
      (tree.withLayout extended)).outcome = .error (.listing error) := by
  induction paths generalizing tree namespaces reports report with
  | nil => simp at stops
  | cons path paths ih =>
    obtain ⟨pages, others, first, rest, rfl⟩ := exists_of_mapM_cons loaded
    obtain _ | ⟨repaired, processedOthers⟩ := processed
    rw [subdirectoriesStory]
    cases found : (Namespace.load (tree.withLayout extended).layout path).value with
    | error error =>
      rw [subdirectoryStory_of_error found]
      exact ⟨error, rfl⟩
    | ok pages' =>
      obtain rfl : pages = pages' :=
        Except.ok.inj (first.symm.trans (kept path List.mem_cons_self pages' found))
      rw [subdirectoryStory_of_ok found, (repaired.withLayout gains).framed, Story.ok_andThen,
        Story.outcome_after]
      rw [← repaired.layout] at gains rest kept
      refine ih gains processedOthers rest
        (fun other member => kept other (List.mem_cons_of_mem _ member)) ?_ _
      obtain ⟨stop, member, unlisted⟩ := stops
      rcases List.mem_cons.1 member with rfl | later
      · exact absurd (Namespace.load_eq_ok_iff.1 found).1 unlisted
      · exact ⟨stop, later, unlisted⟩

end FileTree

end BrokenLinks
