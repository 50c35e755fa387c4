import BrokenLinks.Proofs.Report.Counters
import BrokenLinks.Proofs.Run.Visit

/-! The course of a run in turn, in either mode: its visits one after the other, up to the end or
to the first that fails.

A visit is a single step, which repairs its page or leaves the tree as it is. What a run comes to
is put together from the steps that it has completed: the tree, the report and the notices. -/

set_option autoImplicit false

namespace BrokenLinks

/-! ## Steps -/

namespace Visit

variable {visit : Visit} {tree written : FileTree} {mode : WriteMode} {failure : Failure}

/-- The page cannot be read, or it has to be written and cannot be. -/
def Fails (visit : Visit) (mode : WriteMode) (tree : FileTree) (failure : Failure) : Prop :=
  (∃ cause, tree.readText visit.path = .error cause ∧ failure = .reading visit.path cause) ∨
    ∃ text cause, tree.readText visit.path = .ok text ∧
      (visit.repair text).needsWrite mode = true ∧
      tree.overwrite visit.path (String.ofList (visit.repair text).text) = .error cause ∧
      failure = .writing visit.path cause

theorem repairPage_of_unreadable {cause : AccessError}
    (unread : tree.readText visit.path = .error cause) :
    visit.pages.repairPage mode tree visit.name = .error (.reading visit.path cause) := by
  unfold Namespace.repairPage Namespace.draft
  rw [← path, unread]
  rfl

theorem repairPage_of_readText {text : String} (found : tree.readText visit.path = .ok text) :
    visit.pages.repairPage mode tree visit.name =
      (if (visit.repair text).needsWrite mode then
        visit.pages.write tree visit.name (visit.repair text) else .ok tree).map
          (⟨visit.name, (visit.repair text).changes⟩, ·) := by
  unfold Namespace.repairPage Namespace.draft
  rw [← path, found]
  simp only [bind, Except.bind, pure, Except.pure, Except.map]
  rw [← repair]
  split <;> simp_all

theorem write_eq_error_iff {repair : Repair} :
    visit.pages.write tree visit.name repair = .error failure ↔
      ∃ cause, tree.overwrite visit.path (String.ofList repair.text) = .error cause ∧
        failure = .writing visit.path cause := by
  unfold Namespace.write
  rw [← path]
  cases tree.overwrite visit.path (String.ofList repair.text) with
  | ok written => simp
  | error cause => simp [@eq_comm _ failure]

theorem repairPage_eq_error_iff :
    visit.pages.repairPage mode tree visit.name = .error failure ↔
      visit.Fails mode tree failure := by
  unfold Fails
  cases found : tree.readText visit.path with
  | error cause => simp [repairPage_of_unreadable found, @eq_comm _ failure]
  | ok text =>
    rw [repairPage_of_readText found]
    by_cases needed : (visit.repair text).needsWrite mode = true
    · simp only [reduceCtorEq, false_and, exists_false, false_or, Except.ok.injEq, exists_and_left,
        exists_eq_left', needed, true_and, ← write_eq_error_iff]
      cases visit.pages.write tree visit.name (visit.repair text) <;> simp [Except.map]
    · simp [needed, Except.map]

end Visit

namespace FileTree

def replayIn (mode : WriteMode) (tree : FileTree) (visits : List Visit) : FileTree :=
  match mode with
  | .apply => tree.replay visits
  | .dryRun => tree

@[simp] theorem layout_replayIn (tree : FileTree) (mode : WriteMode) (visits : List Visit) :
    (tree.replayIn mode visits).layout = tree.layout := by
  cases mode <;> rfl

@[simp] theorem replayIn_nil (tree : FileTree) (mode : WriteMode) :
    tree.replayIn mode [] = tree := by
  cases mode <;> rfl

theorem replayIn_append (tree : FileTree) (mode : WriteMode) (first second : List Visit) :
    tree.replayIn mode (first ++ second) = (tree.replayIn mode first).replayIn mode second := by
  cases mode with
  | apply => exact tree.replay_append first second
  | dryRun => rfl

theorem replayIn_cons (tree : FileTree) (mode : WriteMode) (visit : Visit) (visits : List Visit) :
    tree.replayIn mode (visit :: visits) =
      (tree.replayIn mode [visit]).replayIn mode visits :=
  tree.replayIn_append mode [visit] visits

end FileTree

theorem Visit.repairPage_eq_replayIn {mode : WriteMode} {tree ended : FileTree} {visit : Visit}
    {file : FileReport}
    (done : visit.pages.repairPage mode tree visit.name = .ok (file, ended)) :
    ∃ text, tree.readText visit.path = .ok text ∧
      file = ⟨visit.name, (visit.repair text).changes⟩ ∧ ended = tree.replayIn mode [visit] := by
  cases mode with
  | apply => exact visit.repairPage_eq done
  | dryRun =>
    obtain ⟨text, found, reported, left⟩ := Visit.repairPage_eq_ok_iff.1 done
    exact ⟨text, found, reported, by simpa [Repair.needsWrite, FileTree.replayIn] using left⟩

namespace FileTree

variable {mode : WriteMode} {tree ended : FileTree} {visits : List Visit}
  {files : List FileReport}

/-- The visits are completed one after the other, each in the tree that the one before has left. -/
inductive Repaired (mode : WriteMode) :
    FileTree → List Visit → List FileReport → FileTree → Prop where
  | nil {tree : FileTree} : Repaired mode tree [] [] tree
  | cons {tree written ended : FileTree} {visit : Visit} {visits : List Visit} {file : FileReport}
      {files : List FileReport}
      (step : visit.pages.repairPage mode tree visit.name = .ok (file, written))
      (others : Repaired mode written visits files ended) :
      Repaired mode tree (visit :: visits) (file :: files) ended

theorem Repaired.append {between : FileTree} {more : List Visit} {others : List FileReport}
    (first : tree.Repaired mode visits files between)
    (second : between.Repaired mode more others ended) :
    tree.Repaired mode (visits ++ more) (files ++ others) ended := by
  induction first with
  | nil => exact second
  | cons step _ ih => exact .cons step (ih second)

theorem Repaired.eq_replayIn (repaired : tree.Repaired mode visits files ended) :
    ended = tree.replayIn mode visits := by
  induction repaired with
  | nil => rw [replayIn_nil]
  | @cons tree written ended visit visits file files step _ ih =>
    obtain ⟨text, -, -, left⟩ := Visit.repairPage_eq_replayIn step
    rw [ih, left, ← replayIn_cons]

theorem Repaired.layout (repaired : tree.Repaired mode visits files ended) :
    ended.layout = tree.layout := by
  rw [repaired.eq_replayIn, layout_replayIn]

theorem Repaired.names (repaired : tree.Repaired mode visits files ended) :
    files.map FileReport.name = visits.map Visit.name := by
  induction repaired with
  | nil => rfl
  | cons step _ ih =>
    obtain ⟨text, -, rfl, -⟩ := Visit.repairPage_eq_replayIn step
    simp [ih]

theorem repaired_or_fails (mode : WriteMode) (tree : FileTree) (visits : List Visit) :
    (∃ files ended, tree.Repaired mode visits files ended) ∨
      ∃ done visit rest files reached failure, visits = done ++ visit :: rest ∧
        tree.Repaired mode done files reached ∧ visit.Fails mode reached failure := by
  induction visits generalizing tree with
  | nil => exact .inl ⟨[], tree, .nil⟩
  | cons visit visits ih =>
    cases step : visit.pages.repairPage mode tree visit.name with
    | error failure =>
      exact .inr ⟨[], visit, visits, [], tree, failure, rfl, .nil,
        Visit.repairPage_eq_error_iff.1 step⟩
    | ok made =>
      obtain ⟨file, written⟩ := made
      rcases ih written with ⟨files, ended, others⟩ | ⟨done, stop, rest, files, reached, failure,
        rfl, others, fails⟩
      · exact .inl ⟨_, ended, .cons step others⟩
      · exact .inr ⟨visit :: done, stop, rest, _, reached, failure, rfl, .cons step others, fails⟩

/-- The subdirectories are completed one after the other, each with a report of its pages. -/
inductive Processed (mode : WriteMode) :
    FileTree → List Namespace → List SubdirectoryReport → FileTree → Prop where
  | nil {tree : FileTree} : Processed mode tree [] [] tree
  | cons {tree between ended : FileTree} {pages : Namespace} {files : List FileReport}
      {namespaces : List Namespace} {reports : List SubdirectoryReport}
      (repaired : tree.Repaired mode pages.visits files between)
      (others : Processed mode between namespaces reports ended) :
      Processed mode tree (pages :: namespaces)
        (files.foldl .record (.new pages.path) :: reports) ended

theorem Processed.repaired {namespaces : List Namespace} {reports : List SubdirectoryReport}
    (processed : tree.Processed mode namespaces reports ended) :
    tree.Repaired mode (namespaces.flatMap Namespace.visits)
      (reports.flatMap (·.files.toList)) ended := by
  induction processed with
  | nil => exact .nil
  | cons repaired _ ih =>
    rw [List.flatMap_cons, List.flatMap_cons, files_foldl_record]
    exact (by simpa [SubdirectoryReport.new] using repaired.append ih)

end FileTree

/-! ## What is told of them -/

/-- The notices of files that have been repaired, the first of which has this number. -/
def pageNotices (interval : Interval) (path : Path) (files : List FileReport) (first : Nat) :
    List Notice :=
  (files.zipIdx first).flatMap fun (file, number) =>
    if number % interval.val = 0 then [.checkpoint path number, .file file] else [.file file]

def SubdirectoryReport.notices (interval : Interval) (report : SubdirectoryReport) :
    List Notice :=
  .started report.path report.files.size ::
    pageNotices interval report.path report.files.toList 1 ++
      [.finished report.path report.totals]

theorem pageNotices_cons (interval : Interval) (report : SubdirectoryReport) (file : FileReport)
    (files : List FileReport) :
    pageNotices interval report.path (file :: files) (report.totals.filesProcessed + 1) =
      fileNotices interval report file ++ pageNotices interval (report.record file).path files
        ((report.record file).totals.filesProcessed + 1) := rfl

theorem notices_foldl_record (interval : Interval) (path : Path) (files : List FileReport) :
    (files.foldl .record (SubdirectoryReport.new path)).notices interval =
      .started path files.length :: pageNotices interval path files 1 ++
        [.finished path (files.foldl .record (SubdirectoryReport.new path)).totals] := by
  simp [SubdirectoryReport.notices, SubdirectoryReport.new]

namespace Story

variable {α : Type}

@[simp] theorem after_after (first second : List Notice) (story : Story α) :
    (story.after second).after first = story.after (first ++ second) := by
  simp [after]

@[simp] theorem after_mk (outcome : Except Failure α) (tree : FileTree)
    (first second : List Notice) :
    (⟨outcome, tree, second⟩ : Story α).after first = ⟨outcome, tree, first ++ second⟩ := rfl

end Story

theorem exists_of_mapM_cons {ε α β : Type} {look : α → Except ε β} {item : α} {items : List α}
    {values : List β} (found : (item :: items).mapM look = .ok values) :
    ∃ value others, look item = .ok value ∧ items.mapM look = .ok others ∧
      values = value :: others := by
  rw [List.mapM_cons] at found
  cases first : look item with
  | error error => simp [first, bind, Except.bind] at found
  | ok value =>
    cases rest : items.mapM look with
    | error error => simp [first, rest, bind, Except.bind] at found
    | ok others =>
      simp only [first, rest, bind, Except.bind, pure, Except.pure, Except.ok.injEq] at found
      exact ⟨value, others, rfl, rfl, found.symm⟩

theorem exists_ok_of_mapM {ε α β : Type} {look : α → Except ε β} {items : List α}
    {values : List β} (found : items.mapM look = .ok values) :
    ∀ item ∈ items, ∃ value, look item = .ok value := by
  induction items generalizing values with
  | nil => simp
  | cons item items ih =>
    obtain ⟨value, others, first, rest, rfl⟩ := exists_of_mapM_cons found
    exact List.forall_mem_cons.2 ⟨⟨value, first⟩, ih rest⟩

theorem mapM_eq_ok_of_imp {ε α β : Type} {look look' : α → Except ε β} {items : List α}
    {values : List β}
    (kept : ∀ item ∈ items, ∀ value, look item = .ok value → look' item = .ok value)
    (found : items.mapM look = .ok values) : items.mapM look' = .ok values := by
  induction items generalizing values with
  | nil => exact found
  | cons item items ih =>
    obtain ⟨value, others, first, rest, rfl⟩ := exists_of_mapM_cons found
    have keptFirst := kept item List.mem_cons_self value first
    have keptRest := ih (fun other member => kept other (List.mem_cons_of_mem _ member)) rest
    simp [List.mapM_cons, keptFirst, keptRest, bind, Except.bind, pure, Except.pure]

namespace FileTree

variable {config : Config} {tree ended : FileTree} {pages : Namespace}
  {files : List FileReport} {failure : Failure}

theorem Repaired.pagesStory_append {done : List String}
    (repaired : tree.Repaired config.writeMode (done.map (⟨pages, ·⟩)) files ended)
    (report : SubdirectoryReport) (rest : List String) :
    pages.pagesStory config (done ++ rest) report tree =
      (pages.pagesStory config rest (files.foldl .record report) ended).after
        (pageNotices config.interval report.path files (report.totals.filesProcessed + 1)) := by
  induction done generalizing tree files report with
  | nil =>
    cases repaired
    rfl
  | cons name done ih =>
    rw [List.map_cons] at repaired
    obtain _ | ⟨step, others⟩ := repaired
    rw [List.cons_append, Namespace.pagesStory, Namespace.pageStory, step,
      Story.quiet_ok_andThen, ih others, Story.after_after, ← pageNotices_cons]
    rfl

theorem Repaired.storyInTurn
    (repaired : tree.Repaired config.writeMode pages.visits files ended) :
    pages.storyInTurn config tree =
      ⟨.ok (files.foldl .record (.new pages.path)), ended,
        pageNotices config.interval pages.path files 1⟩ := by
  have all := repaired.pagesStory_append (.new pages.path) []
  rw [List.append_nil, Namespace.pagesStory, Story.after_quiet] at all
  exact all

theorem exists_repaired_of_pagesStory {names : List String} {report report' : SubdirectoryReport}
    (succeeded : (pages.pagesStory config names report tree).outcome = .ok report') :
    ∃ files ended, tree.Repaired config.writeMode (names.map (⟨pages, ·⟩)) files ended := by
  induction names generalizing tree report with
  | nil => exact ⟨[], tree, .nil⟩
  | cons name names ih =>
    rw [Namespace.pagesStory, Namespace.pageStory] at succeeded
    cases step : pages.repairPage config.writeMode tree name with
    | error failure => simp [step] at succeeded
    | ok made =>
      simp only [step, Story.quiet_ok_andThen, Story.outcome_after] at succeeded
      obtain ⟨files, ended, others⟩ := ih succeeded
      exact ⟨_, ended, .cons step others⟩

theorem Repaired.framed (repaired : tree.Repaired config.writeMode pages.visits files ended) :
    pages.framed (pages.storyInTurn config tree) =
      ⟨.ok (files.foldl .record (.new pages.path)), ended,
        (files.foldl .record (SubdirectoryReport.new pages.path)).notices config.interval⟩ := by
  have count : pages.names.length = files.length := by
    simpa [Namespace.visits] using (congrArg List.length repaired.names).symm
  rw [Namespace.framed, repaired.storyInTurn, notices_foldl_record, count]
  simp [SubdirectoryReport.new]

theorem Repaired.framed_of_fails {done rest : List String} {name : String}
    (names : pages.names = done ++ name :: rest)
    (repaired : tree.Repaired config.writeMode (done.map (⟨pages, ·⟩)) files ended)
    (fails : Visit.Fails ⟨pages, name⟩ config.writeMode ended failure) :
    pages.framed (pages.storyInTurn config tree) =
      ⟨.error failure, ended, .started pages.path pages.names.length ::
        pageNotices config.interval pages.path files 1⟩ := by
  have stopped : pages.pageStory config.writeMode name ended = .quiet (.error failure) ended := by
    rw [Namespace.pageStory, Visit.repairPage_eq_error_iff.2 fails]
  have told := repaired.pagesStory_append (.new pages.path) (name :: rest)
  rw [Namespace.pagesStory, stopped, Story.quiet_error_andThen, Story.after_quiet] at told
  rw [Namespace.framed, Namespace.storyInTurn, names, told]
  rfl

theorem Processed.subdirectoriesStory_append {paths : List Path} {namespaces : List Namespace}
    {reports : List SubdirectoryReport}
    (loaded : paths.mapM (fun path => (Namespace.load tree.layout path).value) = .ok namespaces)
    (processed : tree.Processed config.writeMode namespaces reports ended)
    (report : RunReport) (rest : List Path) :
    subdirectoriesStory (subdirectoryStory (Namespace.storyInTurn config)) (paths ++ rest) report
        tree =
      (subdirectoriesStory (subdirectoryStory (Namespace.storyInTurn config)) rest
        (reports.foldl .push report) ended).after
          (reports.flatMap (·.notices config.interval)) := by
  induction paths generalizing tree namespaces reports report with
  | nil =>
    cases loaded
    cases processed
    rfl
  | cons path paths ih =>
    obtain ⟨pages, others, first, loadedOthers, rfl⟩ := exists_of_mapM_cons loaded
    obtain _ | ⟨repaired, processedOthers⟩ := processed
    -- The other subdirectories are listed in the layout that has been there from the start.
    rw [← repaired.layout] at loadedOthers
    rw [List.cons_append, subdirectoriesStory, subdirectoryStory_of_ok first, repaired.framed,
      Story.ok_andThen, ih loadedOthers processedOthers, Story.after_after]
    rfl

theorem exists_processed_of_subdirectoriesStory {paths : List Path} {report report' : RunReport}
    (succeeded : (subdirectoriesStory (subdirectoryStory (Namespace.storyInTurn config)) paths
      report tree).outcome = .ok report') :
    ∃ namespaces reports ended,
      paths.mapM (fun path => (Namespace.load tree.layout path).value) = .ok namespaces ∧
      tree.Processed config.writeMode namespaces reports ended := by
  induction paths generalizing tree report with
  | nil => exact ⟨[], [], tree, rfl, .nil⟩
  | cons path paths ih =>
    rw [subdirectoriesStory] at succeeded
    cases loaded : (Namespace.load tree.layout path).value with
    | error error => simp [subdirectoryStory_of_error loaded] at succeeded
    | ok pages =>
      rw [subdirectoryStory_of_ok loaded] at succeeded
      obtain ⟨subdirectory, first⟩ := Story.exists_ok_of_andThen succeeded
      rw [Namespace.framed, Story.outcome_after] at first
      obtain ⟨subdirectory', inside⟩ := Story.exists_ok_of_andThen first
      obtain ⟨files, between, repaired⟩ := exists_repaired_of_pagesStory inside
      rw [repaired.framed, Story.ok_andThen, Story.outcome_after] at succeeded
      obtain ⟨namespaces, reports, ended, loadedOthers, processed⟩ := ih succeeded
      rw [repaired.layout] at loadedOthers
      refine ⟨pages :: namespaces, _, ended, ?_, .cons repaired processed⟩
      simp [List.mapM_cons, loaded, loadedOthers, bind, Except.bind, pure, Except.pure]

end FileTree

namespace Documentation

variable {config : Config} {documentation : Documentation} {tree ended : FileTree}
  {paths : List Path} {namespaces : List Namespace} {reports : List SubdirectoryReport}

theorem story_of_processed
    (listed : (documentation.subdirectories tree.layout).value = .ok paths)
    (loaded : paths.mapM (fun path => (Namespace.load tree.layout path).value) = .ok namespaces)
    (processed : tree.Processed config.writeMode namespaces reports ended) :
    documentation.story config tree =
      ⟨.ok (reports.foldl .push (.new documentation.root config.isDryRun)), ended,
        reports.flatMap (·.notices config.interval)⟩ := by
  have told := processed.subdirectoriesStory_append loaded
    (.new documentation.root config.isDryRun) []
  rw [List.append_nil, subdirectoriesStory, Story.after_quiet] at told
  exact (storyOf_of_ok listed).trans told

theorem exists_processed_of_story {report : RunReport}
    (succeeded : (documentation.story config tree).outcome = .ok report) :
    ∃ paths namespaces reports ended,
      (documentation.subdirectories tree.layout).value = .ok paths ∧
      paths.mapM (fun path => (Namespace.load tree.layout path).value) = .ok namespaces ∧
      tree.Processed config.writeMode namespaces reports ended := by
  rw [story] at succeeded
  cases listed : (documentation.subdirectories tree.layout).value with
  | error error => simp [storyOf_of_error listed] at succeeded
  | ok paths =>
    rw [storyOf_of_ok listed] at succeeded
    obtain ⟨namespaces, reports, ended, loaded, processed⟩ :=
      FileTree.exists_processed_of_subdirectoriesStory succeeded
    exact ⟨paths, namespaces, reports, ended, rfl, loaded, processed⟩

end Documentation

end BrokenLinks
