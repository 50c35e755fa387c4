import BrokenLinks.Proofs.FileTree.Order
import BrokenLinks.Proofs.Run.Pool

/-! Subdirectories whose pages are repaired side by side.

The notices of the pages are given when all are repaired. If the pages lead to different files and
no page fails, then under any schedule this comes to what repairing the pages in turn comes to. -/

set_option autoImplicit false

namespace BrokenLinks

/-! ## Stories -/

def Namespace.togetherStory (pages : Namespace) (mode : WriteMode) (schedule : Schedule)
    (tree : FileTree) : Story (List FileReport) :=
  let pool := (Pool.start tree pages.names).run pages mode
    (schedule ++ .inOrder pages.names.length)
  .quiet pool.outcome pool.tree

def Namespace.pagesStoryAtOnce (config : Config) (schedule : Schedule) (pages : Namespace)
    (tree : FileTree) : Story SubdirectoryReport :=
  (pages.togetherStory config.writeMode schedule tree).andThen fun files written =>
    ⟨.ok (files.foldl .record (.new pages.path)), written,
      pageNotices config.interval pages.path files 1⟩

def Namespace.pagesStoryIn (config : Config) (schedule : Schedule) (pages : Namespace)
    (tree : FileTree) : Story SubdirectoryReport :=
  if config.parallel then pages.pagesStoryAtOnce config schedule tree
  else pages.storyInTurn config tree

theorem Namespace.pagesStoryIn_of_inTurn {config : Config} (inTurn : config.parallel = false)
    (schedule : Schedule) :
    Namespace.pagesStoryIn config schedule = Namespace.storyInTurn config := by
  funext pages tree
  simp [pagesStoryIn, inTurn]

def Documentation.storyIn (config : Config) (schedules : Path → Schedule)
    (documentation : Documentation) (tree : FileTree) : Story RunReport :=
  documentation.storyOf
    (fun path => subdirectoryStory (Namespace.pagesStoryIn config (schedules path)) path)
    config tree

namespace Run

theorem tells_repairTogether (pages : Namespace) (mode : WriteMode) (schedule : Schedule) :
    Tells (repairTogether pages mode schedule) (pages.togetherStory mode schedule) := by
  intro state
  let pool : Pool := ⟨state.tree, pages.names.map (⟨·, .waiting⟩), state.log,
    if (pages.names.map fun name => (⟨name, .waiting⟩ : Task)).length ≤ 1
      then state.activities else []⟩
  let ended := pool.run pages mode (schedule ++ .inOrder pool.tasks.length)
  have settled : (repairTogether pages mode schedule).settle state =
      (ofExcept ended.outcome).settle { state with tree := ended.tree, log := ended.log } := rfl
  have count : pool.tasks.length = pages.names.length := by simp [pool]
  obtain ⟨sameTree, sameTasks⟩ := Pool.run_congr pages mode (.start state.tree pages.names) pool
    rfl rfl (schedule ++ .inOrder pages.names.length)
  have same : Story.quiet ended.outcome ended.tree =
      pages.togetherStory mode schedule state.tree := by
    simp only [Namespace.togetherStory, ended, count]
    rw [sameTree, Pool.outcome, sameTasks]
    rfl
  rw [settled, ← same]
  exact tells_ofExcept ended.outcome { state with tree := ended.tree, log := ended.log }

theorem tells_recordFiles (interval : Interval) (files : List FileReport)
    (report : SubdirectoryReport) :
    Tells (files.foldlM (recordFile interval) report) fun tree =>
      ⟨.ok (files.foldl .record report), tree,
        pageNotices interval report.path files (report.totals.filesProcessed + 1)⟩ := by
  induction files generalizing report with
  | nil => exact tells_pure report
  | cons file files ih =>
    rw [List.foldlM_cons]
    refine ((tells_recordFile interval report file).bind ih).congr fun tree => ?_
    rw [Story.ok_andThen, Story.after_mk, pageNotices_cons]
    rfl

theorem tells_repairAtOnce (config : Config) (schedule : Schedule) (pages : Namespace) :
    Tells (repairAtOnce config schedule pages (.new pages.path))
      (pages.pagesStoryAtOnce config schedule) :=
  (tells_repairTogether pages config.writeMode schedule).bind fun files =>
    tells_recordFiles config.interval files (.new pages.path)

theorem tells_repairSubdirectory_in (config : Config) (schedule : Schedule) (path : Path) :
    Tells (repairSubdirectory config schedule path)
      (subdirectoryStory (Namespace.pagesStoryIn config schedule) path) := by
  cases mode : config.parallel with
  | false =>
    rw [Namespace.pagesStoryIn_of_inTurn mode]
    exact tells_repairSubdirectory mode schedule path
  | true =>
    simp only [repairSubdirectory, mode, if_true]
    refine tells_framed (fun pages => ?_) path
    refine (tells_repairAtOnce config schedule pages).congr fun tree => ?_
    simp [Namespace.pagesStoryIn, mode]

theorem tells_repairDocumentation_in (config : Config) (schedules : Path → Schedule)
    (documentation : Documentation) :
    Tells (repairDocumentation config schedules documentation)
      (documentation.storyIn config schedules) :=
  tells_repairDocumentation_of
    (fun path => tells_repairSubdirectory_in config (schedules path) path) documentation

end Run

/-! ## Agreement -/

/-- If either of the stories succeeds, they are one. -/
def Story.Agrees {α : Type} (first second : Story α) : Prop :=
  first.outcome.isOk = true ∨ second.outcome.isOk = true → first = second

namespace Story

variable {α β : Type} {first second : Story α}

theorem agrees_refl (story : Story α) : story.Agrees story :=
  fun _ => rfl

theorem Agrees.after (agrees : first.Agrees second) (notices : List Notice) :
    (first.after notices).Agrees (second.after notices) :=
  fun succeeded => congrArg (Story.after notices) (agrees succeeded)

theorem Agrees.andThen (agrees : first.Agrees second) {next next' : α → FileTree → Story β}
    (agreesNext : ∀ value, first.outcome = .ok value →
      (next value first.tree).Agrees (next' value first.tree)) :
    (first.andThen next).Agrees (second.andThen next') := by
  intro succeeded
  have begun : first.outcome.isOk = true ∨ second.outcome.isOk = true := by
    rcases succeeded with succeeded | succeeded
    all_goals
      obtain ⟨value, ended⟩ := exists_ok_of_isOk succeeded
      obtain ⟨value', begun⟩ := exists_ok_of_andThen ended
    · exact .inl (by rw [begun]; rfl)
    · exact .inr (by rw [begun]; rfl)
  cases agrees begun
  obtain ⟨value, begun⟩ := exists_ok_of_isOk (or_self_iff.1 begun)
  rw [andThen_of_ok begun, andThen_of_ok begun] at succeeded ⊢
  rw [agreesNext value begun (by simpa using succeeded)]

end Story

variable {config : Config} {tree : FileTree} {pages : Namespace}

theorem pagesStoryAtOnce_agrees (config : Config) (schedule : Schedule)
    (independent : pages.visits.Pairwise (Visit.Independent config.writeMode tree.layout)) :
    (pages.pagesStoryAtOnce config schedule tree).Agrees
      (pages.storyInTurn config tree) := by
  intro succeeded
  have both := @Pool.run_iff_repaired _ _ _ independent schedule
  simp only at both
  have completed : ∃ files ended, tree.Repaired config.writeMode pages.visits files ended := by
    rcases succeeded with atOnce | inTurn
    · obtain ⟨report, atOnce⟩ := Story.exists_ok_of_isOk atOnce
      obtain ⟨files, reported⟩ := Story.exists_ok_of_andThen atOnce
      exact ⟨files, _, both.1 ⟨reported, rfl⟩⟩
    · obtain ⟨report, inTurn⟩ := Story.exists_ok_of_isOk inTurn
      exact FileTree.exists_repaired_of_pagesStory inTurn
  obtain ⟨files, ended, repaired⟩ := completed
  obtain ⟨reported, left⟩ := both.2 repaired
  have together :
      pages.togetherStory config.writeMode schedule tree = .quiet (.ok files) ended := by
    rw [Namespace.togetherStory, reported, left]
  rw [repaired.storyInTurn, Namespace.pagesStoryAtOnce, together, Story.quiet_ok_andThen]

theorem pagesStoryIn_agrees (config : Config) (schedule : Schedule)
    (independent : pages.visits.Pairwise (Visit.Independent config.writeMode tree.layout)) :
    (pages.pagesStoryIn config schedule tree).Agrees
      (pages.storyInTurn config tree) := by
  unfold Namespace.pagesStoryIn
  split
  · exact pagesStoryAtOnce_agrees config schedule independent
  · exact Story.agrees_refl _

def Independent (mode : WriteMode) (layout : Layout) (paths : List Path) : Prop :=
  ∀ path ∈ paths, ∀ pages, (Namespace.load layout path).value = .ok pages →
    pages.visits.Pairwise (Visit.Independent mode layout)

theorem subdirectoryStory_agrees (config : Config) (schedule : Schedule) {path : Path}
    (independent : Independent config.writeMode tree.layout [path]) :
    (subdirectoryStory (Namespace.pagesStoryIn config schedule) path tree).Agrees
      (subdirectoryStory (Namespace.storyInTurn config) path tree) := by
  cases loaded : (Namespace.load tree.layout path).value with
  | error error =>
    rw [subdirectoryStory_of_error loaded, subdirectoryStory_of_error loaded]
    exact Story.agrees_refl _
  | ok pages =>
    rw [subdirectoryStory_of_ok loaded, subdirectoryStory_of_ok loaded]
    have agrees := pagesStoryIn_agrees config schedule (independent path (.head _) pages loaded)
    exact (agrees.andThen fun _ _ => Story.agrees_refl _).after _

theorem layout_subdirectoryStory {path : Path} {report : SubdirectoryReport}
    (succeeded : (subdirectoryStory (Namespace.storyInTurn config) path tree).outcome =
      .ok report) :
    (subdirectoryStory (Namespace.storyInTurn config) path tree).tree.layout = tree.layout := by
  cases loaded : (Namespace.load tree.layout path).value with
  | error error => rw [subdirectoryStory_of_error loaded]; rfl
  | ok pages =>
    rw [subdirectoryStory_of_ok loaded] at succeeded ⊢
    obtain ⟨report', succeeded⟩ := Story.exists_ok_of_andThen succeeded
    obtain ⟨files, ended, repaired⟩ := FileTree.exists_repaired_of_pagesStory succeeded
    rw [FileTree.Repaired.framed repaired]
    exact repaired.layout

theorem subdirectoriesStory_agrees (config : Config) (schedules : Path → Schedule)
    {paths : List Path} (independent : Independent config.writeMode tree.layout paths)
    (report : RunReport) :
    (subdirectoriesStory
        (fun path => subdirectoryStory (Namespace.pagesStoryIn config (schedules path)) path)
        paths report tree).Agrees
      (subdirectoriesStory (subdirectoryStory (Namespace.storyInTurn config)) paths report
        tree) := by
  induction paths generalizing report tree with
  | nil => exact Story.agrees_refl _
  | cons path paths ih =>
    have first := subdirectoryStory_agrees config (schedules path)
      fun other member => independent other (List.mem_singleton.1 member ▸ .head _)
    refine first.andThen fun subdirectory begun => ih ?_ _
    -- The subdirectory has been repaired as it would have been in turn.
    have same := first (.inl (by rw [begun]; rfl))
    rw [same] at begun ⊢
    rw [layout_subdirectoryStory begun]
    exact fun other member => independent other (.tail _ member)

theorem Documentation.storyIn_agrees (config : Config) (schedules : Path → Schedule)
    (documentation : Documentation)
    (independent : ∀ paths, (documentation.subdirectories tree.layout).value = .ok paths →
      Independent config.writeMode tree.layout paths) :
    (documentation.storyIn config schedules tree).Agrees (documentation.story config tree) := by
  rw [storyIn, story]
  cases listed : (documentation.subdirectories tree.layout).value with
  | error error =>
    rw [storyOf_of_error listed, storyOf_of_error listed]
    exact Story.agrees_refl _
  | ok paths =>
    rw [storyOf_of_ok listed, storyOf_of_ok listed]
    exact subdirectoriesStory_agrees config schedules (independent paths listed) _

theorem Documentation.storyIn_of_inTurn (inTurn : config.parallel = false)
    (schedules : Path → Schedule) (documentation : Documentation) (tree : FileTree) :
    documentation.storyIn config schedules tree = documentation.story config tree := by
  simp only [storyIn, Namespace.pagesStoryIn_of_inTurn inTurn, story]

/-! ## Pages that lead to different files -/

def Task.hasFailed (task : Task) : Bool :=
  match task.phase with
  | .done (.error _) => true
  | _ => false

theorem Pool.exists_outcome_ok {pool : Pool} (done : ∀ task ∈ pool.tasks, task.isDone = true)
    (succeeded : ∀ task ∈ pool.tasks, task.hasFailed = false) :
    ∃ files, pool.outcome = .ok files := by
  unfold outcome
  generalize pool.tasks = tasks at done succeeded
  induction tasks with
  | nil => exact ⟨[], rfl⟩
  | cons task tasks ih =>
    obtain ⟨isDone, othersDone⟩ := List.forall_mem_cons.1 done
    obtain ⟨notFailed, othersSucceeded⟩ := List.forall_mem_cons.1 succeeded
    obtain ⟨files, others⟩ := ih othersDone othersSucceeded
    rw [mapM_id_eq_ok_iff] at others
    obtain ⟨name, phase⟩ := task
    cases phase with
    | waiting => contradiction
    | drafted repair => contradiction
    | done outcome =>
      cases outcome with
      | error failure => contradiction
      | ok file => exact ⟨file :: files, mapM_id_eq_ok_iff.2 (by simpa using others)⟩

theorem FileTree.Repaired.settle (config : Config) {path : Path} {state : RunState}
    {files : List FileReport} {ended : FileTree}
    (repaired : state.tree.Repaired config.writeMode pages.visits files ended)
    (loaded : (Namespace.load state.tree.layout path).value = .ok pages)
    (independent : pages.visits.Pairwise (Visit.Independent config.writeMode state.tree.layout))
    (schedule : Schedule) :
    let report := files.foldl .record (SubdirectoryReport.new pages.path)
    ∃ log, (Run.repairSubdirectory config schedule path).settle state =
      (.ok report, ⟨ended, state.notices ++ report.notices config.interval, log,
        state.activities⟩) := by
  have inTurn : subdirectoryStory (Namespace.storyInTurn config) path state.tree = _ :=
    (subdirectoryStory_of_ok loaded).trans repaired.framed
  have all : Independent config.writeMode state.tree.layout [path] := by
    intro other member others loadedOthers
    rw [List.mem_singleton.1 member, loaded] at loadedOthers
    cases loadedOthers
    exact independent
  have agrees := subdirectoryStory_agrees config schedule all
  have same := (agrees (.inr (by rw [inTurn]; rfl))).trans inTurn
  have told := Run.tells_repairSubdirectory_in config schedule path state
  rw [same] at told
  exact told

/-- A subdirectory whose pages lead to different files, none of which fails: whatever the order of
the steps, repairing the pages side by side comes to what repairing them in turn comes to. -/
theorem Run.repairSubdirectory_together {config : Config} {path : Path} {pages : Namespace}
    {state : RunState}
    (loaded : (Namespace.load state.tree.layout path).value = .ok pages)
    (apart : pages.visits.Pairwise (Visit.Apart state.tree.layout)) {schedule : Schedule}
    (succeed : ∀ task ∈ ((Pool.start state.tree pages.names).run pages config.writeMode
      (schedule ++ .inOrder pages.names.length)).tasks, task.hasFailed = false) :
    ∃ (report : SubdirectoryReport) (tree : FileTree) (notices : Array Notice),
      report.files.toList.map FileReport.name = pages.names ∧
      (pages.names.map Bytes.ofString).Pairwise (· < ·) ∧
      (∃ log, (repairSubdirectory { config with parallel := true } schedule path).settle state =
        (.ok report, { state with tree, notices, log })) ∧
      ∀ unused, ∃ log,
        (repairSubdirectory { config with parallel := false } unused path).settle state =
          (.ok report, { state with tree, notices, log }) := by
  have independent : pages.visits.Pairwise
      (Visit.Independent config.writeMode state.tree.layout) :=
    apart.imp fun apart _ => apart
  have done := Pool.isDone_run pages config.writeMode (.start state.tree pages.names) schedule
  rw [show (Pool.start state.tree pages.names).tasks.length = pages.names.length by
    simp [Pool.start]] at done
  obtain ⟨files, outcome⟩ := Pool.exists_outcome_ok done succeed
  have repaired := (Pool.run_iff_repaired independent schedule).1 ⟨outcome, rfl⟩
  have names : files.map FileReport.name = pages.names := by
    simpa [Namespace.visits, Function.comp_def] using repaired.names
  exact ⟨_, _, _, by simpa [SubdirectoryReport.new] using names, (Namespace.names_ascend loaded).2,
    repaired.settle { config with parallel := true } loaded independent schedule,
    repaired.settle { config with parallel := false } loaded independent⟩

def pairedTree : FileTree where
  layout := {
    entries :=
      let docs := Bytes.ofString "docs"
      [([], .directory .unrestricted), ([docs], .directory .unrestricted),
        ([Bytes.ofString "Q2.md", docs], .file 0 .unrestricted),
        ([Bytes.ofString "Q1.md", docs], .file 1 .unrestricted)]
    workingDirectory := []
    distinct := by decide }
  contents := fun _ => Bytes.ofString "[x](Q1.md) [y](Q2.md) [z](Q3.md)"

/-- The second page is read and written between the two steps of the first. -/
theorem Run.repairSubdirectory_together_paired :
    ∃ (report : SubdirectoryReport) (tree : FileTree) (notices : Array Notice),
      report.files.toList.map FileReport.name = ["Q1.md", "Q2.md"] ∧
      (∃ log, (repairSubdirectory { Config.default with parallel := true } [0, 1, 1, 0]
        (.ofString "docs")).settle (.start pairedTree) = (.ok report, ⟨tree, notices, log, []⟩)) ∧
      ∃ log, (repairSubdirectory .default [] (.ofString "docs")).settle (.start pairedTree) =
        (.ok report, ⟨tree, notices, log, []⟩) := by
  let pages : Namespace := ⟨.ofString "docs", ["Q1.md", "Q2.md"]⟩
  have loaded : (Namespace.load pairedTree.layout (.ofString "docs")).value = .ok pages := by cbv
  have first : pairedTree.layout.file? (pages.filePath "Q1.md") = some 1 := by decide +kernel
  have second : pairedTree.layout.file? (pages.filePath "Q2.md") = some 0 := by decide +kernel
  have apart : pages.visits.Pairwise (Visit.Apart pairedTree.layout) :=
    List.pairwise_pair.2 fun file leads leads' =>
      absurd (first.symm.trans (leads.trans (leads'.symm.trans second))) (by decide)
  obtain ⟨report, tree, notices, named, -, together, inTurn⟩ :=
    @repairSubdirectory_together .default _ pages (.start pairedTree) loaded apart [0, 1, 1, 0]
      (by decide +kernel)
  exact ⟨report, tree, notices, named, together, inTurn []⟩

end BrokenLinks
