import BrokenLinks.Run.Subdirectory
import Mathlib

/-! What a run comes to from a tree: its outcome, the tree that it leaves and the notices that it
gives.

The log and the activities of a run decide nothing, so the story of a run depends on the tree
alone. Runs in turn are told page by page and subdirectory by subdirectory, up to the first
failure. -/

set_option autoImplicit false

namespace BrokenLinks

structure Story (α : Type) where
  outcome : Except Failure α
  tree : FileTree
  notices : List Notice

namespace Story

variable {α β : Type}

def quiet (outcome : Except Failure α) (tree : FileTree) : Story α := ⟨outcome, tree, []⟩

def after (notices : List Notice) (story : Story α) : Story α :=
  { story with notices := notices ++ story.notices }

def andThen (story : Story α) (next : α → FileTree → Story β) : Story β :=
  match story.outcome with
  | .ok value => (next value story.tree).after story.notices
  | .error failure => ⟨.error failure, story.tree, story.notices⟩

variable {next : α → FileTree → Story β} {tree : FileTree}

@[simp] theorem outcome_after (notices : List Notice) (story : Story α) :
    (story.after notices).outcome = story.outcome := rfl

@[simp] theorem tree_after (notices : List Notice) (story : Story α) :
    (story.after notices).tree = story.tree := rfl

@[simp] theorem outcome_quiet (outcome : Except Failure α) :
    (quiet outcome tree).outcome = outcome := rfl

@[simp] theorem tree_quiet (outcome : Except Failure α) : (quiet outcome tree).tree = tree := rfl

@[simp] theorem after_quiet (outcome : Except Failure α) (notices : List Notice) :
    (quiet outcome tree).after notices = ⟨outcome, tree, notices⟩ := by
  simp [quiet, after]

@[simp] theorem quiet_ok_andThen (value : α) :
    (quiet (.ok value) tree).andThen next = next value tree := rfl

@[simp] theorem quiet_error_andThen (failure : Failure) :
    (quiet (.error failure) tree).andThen next = quiet (.error failure) tree := rfl

@[simp] theorem ok_andThen (value : α) (notices : List Notice) :
    (⟨.ok value, tree, notices⟩ : Story α).andThen next = (next value tree).after notices := rfl

theorem andThen_of_ok {story : Story α} {value : α} (succeeded : story.outcome = .ok value) :
    story.andThen next = (next value story.tree).after story.notices := by
  simp [andThen, succeeded]

theorem exists_ok_of_isOk {outcome : Except Failure α} (succeeded : outcome.isOk = true) :
    ∃ value, outcome = .ok value := by
  cases outcome with
  | error failure => contradiction
  | ok value => exact ⟨value, rfl⟩

theorem exists_ok_of_andThen {story : Story α} {value : β}
    (succeeded : (story.andThen next).outcome = .ok value) :
    ∃ first, story.outcome = .ok first := by
  cases outcome : story.outcome with
  | ok first => exact ⟨first, rfl⟩
  | error failure => simp [andThen, outcome] at succeeded

end Story

namespace Run

variable {α β : Type}

/-- The run has this story, whatever has been logged and noticed before. -/
def Tells (run : Run α) (story : FileTree → Story α) : Prop :=
  ∀ state : RunState, ∃ log, run.settle state =
    ((story state.tree).outcome,
      ⟨(story state.tree).tree, state.notices ++ (story state.tree).notices, log,
        state.activities⟩)

theorem Tells.of_settle {run : Run α} {story : FileTree → Story α} (told : run.Tells story)
    {state ended : RunState} {outcome : Except Failure α}
    (settled : run.settle state = (outcome, ended)) :
    (story state.tree).outcome = outcome ∧ (story state.tree).tree = ended.tree := by
  obtain ⟨log, same⟩ := told state
  rw [settled, Prod.mk.injEq] at same
  exact ⟨same.1.symm, (congrArg RunState.tree same.2).symm⟩

theorem Tells.notices_of_settle {run : Run α} {story : FileTree → Story α} (told : run.Tells story)
    {state ended : RunState} {outcome : Except Failure α}
    (settled : run.settle state = (outcome, ended)) :
    ended.notices = state.notices ++ (story state.tree).notices := by
  obtain ⟨log, same⟩ := told state
  rw [settled, Prod.mk.injEq] at same
  exact congrArg RunState.notices same.2

theorem Tells.exists_settle {run : Run α} {story : FileTree → Story α} (told : run.Tells story)
    (state : RunState) :
    ∃ ended, run.settle state = ((story state.tree).outcome, ended) ∧
      ended.tree = (story state.tree).tree ∧
      ended.notices = state.notices ++ (story state.tree).notices := by
  obtain ⟨log, settled⟩ := told state
  exact ⟨_, settled, rfl, rfl⟩

theorem exists_ok_of_isOk {run : Run α} {state : RunState}
    (succeeded : (run.settle state).1.isOk = true) :
    ∃ value ended, run.settle state = (.ok value, ended) := by
  obtain ⟨value, ended⟩ := Story.exists_ok_of_isOk succeeded
  exact ⟨value, _, Prod.ext ended rfl⟩

theorem settle_bind (run : Run α) (next : α → Run β) (state : RunState) :
    (run >>= next).settle state =
      match run.settle state with
      | (.ok value, ended) => (next value).settle ended
      | (.error failure, ended) => (.error failure, ended) := by
  simp only [settle, EStateM.run, bind, EStateM.bind]
  cases run state <;> rfl

theorem tells_pure (value : α) : Tells (pure value) fun tree => .quiet (.ok value) tree := by
  intro state
  exact ⟨state.log, by simp [settle, EStateM.run, pure, EStateM.pure, Story.quiet]⟩

theorem Tells.bind {run : Run α} {next : α → Run β} {story : FileTree → Story α}
    {later : α → FileTree → Story β} (first : run.Tells story)
    (others : ∀ value, (next value).Tells (later value)) :
    (run >>= next).Tells fun tree => (story tree).andThen later := by
  intro state
  obtain ⟨log, settled⟩ := first state
  rw [settle_bind, settled]
  cases outcome : (story state.tree).outcome with
  | error failure => exact ⟨log, by simp [Story.andThen, outcome]⟩
  | ok value =>
    obtain ⟨log', settled'⟩ := others value
      ⟨(story state.tree).tree, state.notices ++ (story state.tree).notices, log, state.activities⟩
    refine ⟨log', settled'.trans ?_⟩
    have inOrder : state.notices ++ (story state.tree).notices ++
          (later value (story state.tree).tree).notices =
        state.notices ++ ((story state.tree).notices ++
          (later value (story state.tree).tree).notices) :=
      Array.toList_inj.1 (by simp)
    simp only [Story.andThen, Story.after, outcome, inOrder]

theorem tells_notify (notice : Notice) :
    Tells (notify notice) fun tree => ⟨.ok (), tree, [notice]⟩ := by
  intro state
  exact ⟨state.log, by simp [settle, notify, modify, modifyGet, MonadStateOf.modifyGet, EStateM.run,
    EStateM.modifyGet]⟩

theorem tells_record (records : List Record) :
    Tells (record records) fun tree => .quiet (.ok ()) tree := by
  intro state
  exact ⟨_, by simp [settle, record, modify, modifyGet, MonadStateOf.modifyGet, EStateM.run,
    EStateM.modifyGet, Story.quiet]; rfl⟩

theorem Tells.within {run : Run α} {story : FileTree → Story α} (activity : Activity)
    (inside : run.Tells story) : (Run.within activity run).Tells story := by
  intro state
  obtain ⟨log, settled⟩ := inside { state with activities := activity :: state.activities }
  refine ⟨log, ?_⟩
  -- The activity is on the stack while the run goes on, and off it again however the run ends.
  simp only [settle, EStateM.run, Run.within] at settled ⊢
  split at settled <;> simp_all

theorem tells_tree : Tells tree fun tree => .quiet (.ok tree) tree := by
  intro state
  exact ⟨state.log, by simp [settle, tree, get, getThe, MonadStateOf.get, EStateM.run, EStateM.get,
    bind, EStateM.bind, pure, EStateM.pure, Story.quiet]⟩

theorem tells_setTree (written : FileTree) :
    Tells (setTree written) fun _ => .quiet (.ok ()) written := by
  intro state
  exact ⟨state.log, by simp [settle, setTree, modify, modifyGet, MonadStateOf.modifyGet,
    EStateM.run, EStateM.modifyGet, Story.quiet]⟩

theorem tells_ofExcept (outcome : Except Failure α) :
    Tells (ofExcept outcome) fun tree => .quiet outcome tree := by
  intro state
  refine ⟨state.log, ?_⟩
  cases outcome <;> simp [settle, ofExcept, EStateM.run, throw, throwThe, MonadExceptOf.throw,
    EStateM.throw, pure, EStateM.pure, Story.quiet]

theorem Tells.ite (condition : Prop) [Decidable condition] {run other : Run α}
    {story story' : FileTree → Story α} (yes : run.Tells story) (no : other.Tells story') :
    (if condition then run else other).Tells fun tree =>
      if condition then story tree else story' tree := by
  split
  · exact yes
  · exact no

theorem Tells.congr {run : Run α} {story story' : FileTree → Story α} (told : run.Tells story)
    (same : ∀ tree, story tree = story' tree) : run.Tells story' :=
  funext same ▸ told

theorem tells_consult (look : Layout → Logged (Except ListingError α)) :
    Tells (consult look) fun tree =>
      .quiet ((look tree.layout).value.mapError .listing) tree :=
  tells_tree.bind fun _ => (tells_record _).bind fun _ => tells_ofExcept _

end Run

/-! ## Pages in turn -/

def fileNotices (interval : Interval) (report : SubdirectoryReport) (file : FileReport) :
    List Notice :=
  let processed := report.totals.filesProcessed + 1
  if processed % interval.val = 0 then [.checkpoint report.path processed, .file file]
  else [.file file]

def Namespace.repairPage (pages : Namespace) (mode : WriteMode) (tree : FileTree) (name : String) :
    Except Failure (FileReport × FileTree) := do
  let repair ← pages.draft tree name
  let written ← if repair.needsWrite mode then pages.write tree name repair else .ok tree
  return (⟨name, repair.changes⟩, written)

/-- A page that fails leaves the tree as it is. -/
def Namespace.pageStory (pages : Namespace) (mode : WriteMode) (name : String) (tree : FileTree) :
    Story FileReport :=
  match pages.repairPage mode tree name with
  | .ok (file, written) => .quiet (.ok file) written
  | .error failure => .quiet (.error failure) tree

def Namespace.pagesStory (config : Config) (pages : Namespace) :
    List String → SubdirectoryReport → FileTree → Story SubdirectoryReport
  | [], report, tree => .quiet (.ok report) tree
  | name :: names, report, tree =>
    (pages.pageStory config.writeMode name tree).andThen fun file written =>
      (pages.pagesStory config names (report.record file) written).after
        (fileNotices config.interval report file)

def Namespace.storyInTurn (config : Config) (pages : Namespace) (tree : FileTree) :
    Story SubdirectoryReport :=
  pages.pagesStory config pages.names (.new pages.path) tree

/-- The start and the end of a subdirectory, around what is told of its pages. -/
def Namespace.framed (pages : Namespace) (inside : Story SubdirectoryReport) :
    Story SubdirectoryReport :=
  (inside.andThen fun report written =>
    ⟨.ok report, written, [.finished report.path report.totals]⟩).after
      [.started pages.path pages.names.length]

/-! ## Subdirectories in turn -/

def subdirectoryStory (inside : Namespace → FileTree → Story SubdirectoryReport) (path : Path)
    (tree : FileTree) : Story SubdirectoryReport :=
  match (Namespace.load tree.layout path).value with
  | .ok pages => pages.framed (inside pages tree)
  | .error error => .quiet (.error (.listing error)) tree

def subdirectoriesStory (story : Path → FileTree → Story SubdirectoryReport) :
    List Path → RunReport → FileTree → Story RunReport
  | [], report, tree => .quiet (.ok report) tree
  | path :: paths, report, tree =>
    (story path tree).andThen fun subdirectory written =>
      subdirectoriesStory story paths (report.push subdirectory) written

def Documentation.storyOf (story : Path → FileTree → Story SubdirectoryReport) (config : Config)
    (documentation : Documentation) (tree : FileTree) : Story RunReport :=
  match (documentation.subdirectories tree.layout).value with
  | .ok paths => subdirectoriesStory story paths (.new documentation.root config.isDryRun) tree
  | .error error => .quiet (.error (.listing error)) tree

def Documentation.story (config : Config) (documentation : Documentation) :
    FileTree → Story RunReport :=
  documentation.storyOf (subdirectoryStory (Namespace.storyInTurn config)) config

theorem subdirectoryStory_of_ok {inside : Namespace → FileTree → Story SubdirectoryReport}
    {path : Path} {tree : FileTree} {pages : Namespace}
    (loaded : (Namespace.load tree.layout path).value = .ok pages) :
    subdirectoryStory inside path tree = pages.framed (inside pages tree) := by
  rw [subdirectoryStory, loaded]

theorem subdirectoryStory_of_error {inside : Namespace → FileTree → Story SubdirectoryReport}
    {path : Path} {tree : FileTree} {error : ListingError}
    (unlisted : (Namespace.load tree.layout path).value = .error error) :
    subdirectoryStory inside path tree = .quiet (.error (.listing error)) tree := by
  rw [subdirectoryStory, unlisted]

namespace Documentation

variable {story : Path → FileTree → Story SubdirectoryReport} {config : Config}
  {documentation : Documentation} {tree : FileTree}

theorem storyOf_of_ok {paths : List Path}
    (listed : (documentation.subdirectories tree.layout).value = .ok paths) :
    documentation.storyOf story config tree =
      subdirectoriesStory story paths (.new documentation.root config.isDryRun) tree := by
  rw [storyOf, listed]

theorem storyOf_of_error {error : ListingError}
    (unlisted : (documentation.subdirectories tree.layout).value = .error error) :
    documentation.storyOf story config tree = .quiet (.error (.listing error)) tree := by
  rw [storyOf, unlisted]

end Documentation

namespace Run

theorem tells_recordFile (interval : Interval) (report : SubdirectoryReport) (file : FileReport) :
    Tells (recordFile interval report file) fun tree =>
      ⟨.ok (report.record file), tree, fileNotices interval report file⟩ := by
  have ending : Tells (do notify (.file file); return report.record file) fun tree =>
      ⟨.ok (report.record file), tree, [.file file]⟩ :=
    (tells_notify _).bind fun _ => tells_pure _
  unfold recordFile
  refine (Tells.ite _ ((tells_notify _).bind fun _ => ending) ending).congr fun tree => ?_
  by_cases checkpoint : (report.totals.filesProcessed + 1) % interval.val = 0 <;>
    simp [fileNotices, checkpoint, Story.after]

theorem tells_repairPage (pages : Namespace) (mode : WriteMode) (name : String) :
    Tells (repairPage pages mode name) (pages.pageStory mode name) := by
  -- The story is put together in the shape of the run, and only then compared with the plain one.
  have writing (repair : Repair) := tells_tree.bind fun tree =>
    (tells_ofExcept (pages.write tree name repair)).bind fun written =>
      (tells_setTree written).bind fun _ =>
        (tells_record [pages.writtenRecord name repair]).bind fun _ =>
          tells_pure (FileReport.mk name repair.changes)
  have told := tells_tree.bind fun tree => (tells_ofExcept (pages.draft tree name)).bind
    fun repair => (tells_record repair.records).bind fun _ =>
      Tells.ite (repair.needsWrite mode = true) (writing repair)
        (tells_pure (FileReport.mk name repair.changes))
  refine (Tells.within (.page pages.path name mode) told).congr fun tree => ?_
  simp only [Story.quiet_ok_andThen, Namespace.pageStory, Namespace.repairPage]
  cases pages.draft tree name with
  | error failure => rfl
  | ok repair =>
    cases needed : repair.needsWrite mode with
    | false => simp [needed, bind, Except.bind, pure, Except.pure]
    | true => cases written : pages.write tree name repair <;>
        simp [needed, written, bind, Except.bind, pure, Except.pure]

theorem tells_repairInTurn (config : Config) (pages : Namespace) (report : SubdirectoryReport) :
    Tells (repairInTurn config pages report) (pages.pagesStory config pages.names report) := by
  unfold repairInTurn
  -- By induction on the pages that are left, for any report of those before.
  induction pages.names generalizing report with
  | nil => exact tells_pure report
  | cons name names ih =>
    rw [List.foldlM_cons, bind_assoc]
    refine (tells_repairPage pages config.writeMode name).bind fun file => ?_
    exact (tells_recordFile config.interval report file).bind ih

theorem tells_framed {run : Namespace → Run SubdirectoryReport}
    {inside : Namespace → FileTree → Story SubdirectoryReport}
    (told : ∀ pages, (run pages).Tells (inside pages)) (path : Path) :
    Tells (within (.subdirectory path) do
      let pages ← consult (Namespace.load · path)
      notify (.started pages.path pages.names.length)
      if pages.names.isEmpty then
        record [⟨.debug, .files, s!"No markdown files in {pages.path.display}"⟩]
      let report ← run pages
      notify (.finished report.path report.totals)
      return report) (subdirectoryStory inside path) := by
  have repairing (pages : Namespace) := (told pages).bind fun report =>
    (tells_notify (.finished report.path report.totals)).bind fun _ => tells_pure report
  have whole := (tells_consult (Namespace.load · path)).bind fun pages =>
    (tells_notify (.started pages.path pages.names.length)).bind fun _ =>
      Tells.ite (pages.names.isEmpty = true)
        ((tells_record [⟨.debug, .files, s!"No markdown files in {pages.path.display}"⟩]).bind
          fun _ => repairing pages) (repairing pages)
  refine (Tells.within (.subdirectory path) whole).congr fun tree => ?_
  simp only [subdirectoryStory]
  cases (Namespace.load tree.layout path).value with
  | error failure => rfl
  | ok pages => simp [Except.mapError, Namespace.framed]

theorem tells_repairSubdirectory {config : Config} (inTurn : config.parallel = false)
    (schedule : Schedule) (path : Path) :
    Tells (repairSubdirectory config schedule path)
      (subdirectoryStory (Namespace.storyInTurn config) path) := by
  unfold repairSubdirectory
  simp only [inTurn, Bool.false_eq_true, if_false]
  exact tells_framed (fun pages => tells_repairInTurn config pages (.new pages.path)) path

theorem tells_repairDocumentation_of {config : Config} {schedules : Path → Schedule}
    {story : Path → FileTree → Story SubdirectoryReport}
    (told : ∀ path, Tells (repairSubdirectory config (schedules path) path) (story path))
    (documentation : Documentation) :
    Tells (repairDocumentation config schedules documentation)
      (documentation.storyOf story config) := by
  -- By induction on the subdirectories that are left, for any report of those before.
  have inOrder (paths : List Path) (report : RunReport) :
      Tells (paths.foldlM (fun report path => do
        return report.push (← repairSubdirectory config (schedules path) path)) report)
        (subdirectoriesStory story paths report) := by
    induction paths generalizing report with
    | nil => exact tells_pure report
    | cons path paths ih =>
      rw [List.foldlM_cons, bind_assoc]
      refine (told path).bind fun subdirectory => ?_
      rw [pure_bind]
      exact ih _
  refine ((tells_consult documentation.subdirectories).bind fun paths =>
    inOrder paths (.new documentation.root config.isDryRun)).congr fun tree => ?_
  simp only [Documentation.storyOf]
  cases (documentation.subdirectories tree.layout).value <;> rfl

theorem tells_repairDocumentation {config : Config} (inTurn : config.parallel = false)
    (schedules : Path → Schedule) (documentation : Documentation) :
    Tells (repairDocumentation config schedules documentation) (documentation.story config) :=
  tells_repairDocumentation_of
    (fun path => tells_repairSubdirectory inTurn (schedules path) path) documentation

end Run

end BrokenLinks
