import BrokenLinks.Proofs.Run.Sequence
import BrokenLinks.Proofs.Run.Together

/-! What is told of a run that succeeds.

The notices are those of the report, subdirectory by subdirectory, and the report is on every page
of every subdirectory, once and in the order of the names. This does not depend on the files that
the pages lead to: side by side or in turn, under any schedule, each page has one report. -/

set_option autoImplicit false

namespace BrokenLinks

variable {config : Config} {tree : FileTree} {pages : Namespace}

/-! ## Checkpoints -/

def Notice.isCheckpoint : Notice → Bool
  | .checkpoint _ _ => true
  | _ => false

theorem countP_pageNotices (interval : Interval) (path : Path) (files : List FileReport)
    (before : Nat) :
    before / interval.val + (pageNotices interval path files (before + 1)).countP
      Notice.isCheckpoint = (before + files.length) / interval.val := by
  induction files generalizing before with
  | nil => simp [pageNotices]
  | cons file files ih =>
    have others := ih (before + 1)
    have count : before + (file :: files).length = before + 1 + files.length := by
      rw [List.length_cons]
      omega
    rw [count, ← others, Nat.succ_div]
    simp only [pageNotices, List.zipIdx_cons, List.flatMap_cons, List.countP_append,
      Nat.dvd_iff_mod_eq_zero]
    split <;> simp [Notice.isCheckpoint, Nat.add_assoc, List.countP_cons]

theorem SubdirectoryReport.countP_notices (interval : Interval) (report : SubdirectoryReport) :
    (report.notices interval).countP Notice.isCheckpoint =
      report.files.size / interval.val := by
  have counted := countP_pageNotices interval report.path report.files.toList 0
  simp only [Nat.zero_div, Nat.zero_add, Array.length_toList] at counted
  simp [notices, Notice.isCheckpoint, counted]

/-! ## Pages, each with one report -/

/-- The report is on all pages of the directory at its path, once each and in the order of their
names, and its counters are those of the files. -/
structure SubdirectoryReport.Exact (layout : Layout) (report : SubdirectoryReport) : Prop where
  pages : ∃ pages, (Namespace.load layout report.path).value = .ok pages ∧
    report.files.toList.map FileReport.name = pages.names
  shown : layout.ShowsPages report.path (report.files.toList.map FileReport.name)
  totals : report.totals = .ofFiles report.files.toList

theorem Namespace.names_of_togetherStory {mode : WriteMode} {schedule : Schedule}
    {files : List FileReport}
    (succeeded : (pages.togetherStory mode schedule tree).outcome = .ok files) :
    files.map FileReport.name = pages.names := by
  have started : ∀ task ∈ (Pool.start tree pages.names).tasks, task.Named := by
    simp [Pool.start, Task.Named]
  have count : (Pool.start tree pages.names).tasks.length = pages.names.length := by
    simp [Pool.start]
  obtain ⟨names, named⟩ :=
    Pool.names_run pages mode (schedule ++ .inOrder pages.names.length) started
  have done := Pool.isDone_run pages mode (.start tree pages.names) schedule
  rw [count] at done
  rw [Pool.names_of_outcome done named succeeded, names]
  simp [Pool.start, Function.comp_def]

theorem Namespace.layout_togetherStory (pages : Namespace) (mode : WriteMode) (schedule : Schedule)
    (tree : FileTree) : (pages.togetherStory mode schedule tree).tree.layout = tree.layout :=
  Pool.layout_run pages mode _ _

theorem Namespace.pagesStoryIn_of_ok {schedule : Schedule} {report : SubdirectoryReport}
    (succeeded : (pages.pagesStoryIn config schedule tree).outcome = .ok report) :
    ∃ files ended, ended.layout = tree.layout ∧ files.map FileReport.name = pages.names ∧
      pages.pagesStoryIn config schedule tree = ⟨.ok (files.foldl .record (.new pages.path)), ended,
        pageNotices config.interval pages.path files 1⟩ := by
  unfold pagesStoryIn at succeeded ⊢
  split at succeeded
  case isTrue parallel =>
    rw [if_pos parallel]
    obtain ⟨files, reported⟩ := Story.exists_ok_of_andThen succeeded
    refine ⟨files, _, layout_togetherStory pages config.writeMode schedule tree,
      names_of_togetherStory reported, ?_⟩
    rw [pagesStoryAtOnce, Story.andThen_of_ok reported]
    rfl
  case isFalse inTurn =>
    rw [if_neg inTurn]
    obtain ⟨files, ended, repaired⟩ := FileTree.exists_repaired_of_pagesStory succeeded
    refine ⟨files, ended, FileTree.Repaired.layout repaired, ?_,
      FileTree.Repaired.storyInTurn repaired⟩
    simpa [visits, Function.comp_def] using FileTree.Repaired.names repaired

/-! ## Subdirectories -/

structure SubdirectoryReport.Told (interval : Interval) (path : Path) (tree : FileTree)
    (story : Story SubdirectoryReport) (report : SubdirectoryReport) : Prop where
  path : report.path = path
  exact : report.Exact tree.layout
  notices : story.notices = report.notices interval
  layout : story.tree.layout = tree.layout

theorem told_of_subdirectoryStory {schedule : Schedule} {path : Path}
    {report : SubdirectoryReport}
    (succeeded : (subdirectoryStory (Namespace.pagesStoryIn config schedule) path tree).outcome =
      .ok report) :
    report.Told config.interval path tree
      (subdirectoryStory (Namespace.pagesStoryIn config schedule) path tree) := by
  cases loaded : (Namespace.load tree.layout path).value with
  | error error => simp [subdirectoryStory_of_error loaded] at succeeded
  | ok pages =>
    rw [subdirectoryStory_of_ok loaded] at succeeded ⊢
    obtain ⟨inside, first⟩ := Story.exists_ok_of_andThen succeeded
    obtain ⟨files, ended, layout, names, told⟩ := Namespace.pagesStoryIn_of_ok first
    obtain ⟨-, same, shown⟩ := Namespace.load_eq_ok_iff_showsPages.1 loaded
    have count : pages.names.length = files.length := by rw [← names, List.length_map]
    rw [Namespace.framed, told, Story.ok_andThen, Story.after_mk, Story.after_mk] at succeeded ⊢
    cases succeeded
    have recorded : (files.foldl .record (SubdirectoryReport.new pages.path)).files.toList =
        files := by
      simp [SubdirectoryReport.new]
    refine ⟨by simp [SubdirectoryReport.new, same], ⟨⟨pages, ?_, ?_⟩, ?_, ?_⟩, ?_, layout⟩
    · simpa [SubdirectoryReport.new, same] using loaded
    · rw [recorded, names]
    · rw [recorded, names]
      simpa [SubdirectoryReport.new, same] using shown
    · rw [recorded, totals_foldl_record_new]
    · rw [notices_foldl_record, count]
      simp [SubdirectoryReport.new]

theorem told_of_subdirectoriesStory {schedules : Path → Schedule} {paths : List Path}
    {before report : RunReport}
    (succeeded : (subdirectoriesStory
      (fun path => subdirectoryStory (Namespace.pagesStoryIn config (schedules path)) path)
      paths before tree).outcome = .ok report) :
    ∃ reports : List SubdirectoryReport, report = reports.foldl .push before ∧
      reports.map SubdirectoryReport.path = paths ∧
      (∀ report ∈ reports, report.Exact tree.layout) ∧
      (subdirectoriesStory
        (fun path => subdirectoryStory (Namespace.pagesStoryIn config (schedules path)) path)
        paths before tree).notices = reports.flatMap (·.notices config.interval) := by
  induction paths generalizing before tree with
  | nil =>
    cases succeeded
    exact ⟨[], rfl, rfl, by simp, rfl⟩
  | cons path paths ih =>
    rw [subdirectoriesStory] at succeeded ⊢
    obtain ⟨subdirectory, first⟩ := Story.exists_ok_of_andThen succeeded
    obtain ⟨same, exactly, notices, layout⟩ := told_of_subdirectoryStory first
    rw [Story.andThen_of_ok first] at succeeded ⊢
    obtain ⟨reports, rfl, paths, others, told⟩ := ih succeeded
    -- Each subdirectory is listed in the layout that has been there from the start.
    rw [layout] at others
    refine ⟨subdirectory :: reports, rfl, by rw [List.map_cons, same, paths],
      List.forall_mem_cons.2 ⟨exactly, others⟩, ?_⟩
    rw [Story.after, told, notices, List.flatMap_cons]

/-- A run that succeeds tells of all subdirectories in the order of their names, and of each of
them what its report says: that it is started with so many pages, each of its files, after a
checkpoint if its number is a multiple of the interval, and that it is finished with the counters
of these files. -/
theorem Run.notices_repairDocumentation {schedules : Path → Schedule}
    {documentation : Documentation} {state ended : RunState} {report : RunReport}
    (done : (repairDocumentation config schedules documentation).settle state =
      (.ok report, ended)) :
    ended.notices.toList = state.notices.toList ++
        report.subdirectories.toList.flatMap (·.notices config.interval) ∧
      (∃ names, state.tree.layout.ShowsDirectories documentation.root names ∧
        (documentation.subdirectories state.tree.layout).value =
          .ok (names.map documentation.root.join) ∧
        report.subdirectories.toList.map SubdirectoryReport.path =
          names.map documentation.root.join) ∧
      ∀ subdirectory ∈ report.subdirectories, subdirectory.Exact state.tree.layout ∧
        (subdirectory.notices config.interval).countP Notice.isCheckpoint =
          subdirectory.files.size / config.interval.val := by
  have told := tells_repairDocumentation_in config schedules documentation
  have succeeded := (told.of_settle done).1
  have notices := told.notices_of_settle done
  rw [Documentation.storyIn] at succeeded notices
  cases listed : (documentation.subdirectories state.tree.layout).value with
  | error error => simp [Documentation.storyOf_of_error listed] at succeeded
  | ok paths =>
    rw [Documentation.storyOf_of_ok listed] at succeeded notices
    obtain ⟨reports, rfl, paths, exactly, same⟩ := told_of_subdirectoriesStory succeeded
    obtain ⟨-, names, shown, rfl⟩ :=
      Documentation.subdirectories_eq_ok_iff_showsDirectories.1 listed
    have pushed (dryRun : Bool) :
        (reports.foldl .push (RunReport.new documentation.root dryRun)).subdirectories.toList =
          reports := by
      simp [RunReport.new]
    refine ⟨?_, ⟨names, shown, rfl, ?_⟩, fun subdirectory member => ⟨exactly _ ?_, ?_⟩⟩
    · rw [notices, same, pushed, Array.toList_appendList]
    · rw [pushed, paths]
    · rwa [← Array.mem_toList_iff, pushed] at member
    · exact subdirectory.countP_notices config.interval

/-- Both pages are read before either of them is written, and the second is written first. -/
theorem Run.notices_repairDocumentation_paired :
    let docs : Path := .ofString "./docs"
    let documentation : Documentation := ⟨.ofString "."⟩
    let config : Config := ⟨documentation.root, .apply, ⟨2, by decide⟩, true⟩
    ∃ report ended,
      (repairDocumentation config (fun _ => [0, 1, 1, 0]) documentation).settle
        (.start pairedTree) = (.ok report, ended) ∧
      ended.notices.toList = [.started docs 2, .file ⟨"Q1.md", 1⟩, .checkpoint docs 2,
        .file ⟨"Q2.md", 1⟩, .finished docs ⟨2, 2, 2⟩] ∧
      ∀ subdirectory ∈ report.subdirectories, subdirectory.Exact pairedTree.layout := by
  intro docs documentation config
  obtain ⟨report, ended, done⟩ := exists_ok_of_isOk (show ((repairDocumentation config
    (fun _ => [0, 1, 1, 0]) documentation).settle (.start pairedTree)).1.isOk = true by cbv)
  have reported : ((repairDocumentation config (fun _ => [0, 1, 1, 0]) documentation).settle
      (.start pairedTree)).1.toOption.map (·.subdirectories.toList) =
        some [⟨.ofString "./docs", #[⟨"Q1.md", 1⟩, ⟨"Q2.md", 1⟩], ⟨2, 2, 2⟩⟩] := by cbv
  obtain ⟨told, -, exactly⟩ := notices_repairDocumentation done
  rw [done] at reported
  have only : report.subdirectories.toList = _ := Option.some.inj reported
  rw [only] at told
  exact ⟨report, ended, done, told.trans (by cbv),
    fun subdirectory member => (exactly subdirectory member).1⟩

end BrokenLinks
