import BrokenLinks.Proofs.Run.Together

/-! Dry runs, which leave the tree as it is.

This holds however the run ends, and under any schedule: no page needs to be written, so no task
gets as far as to write one. -/

set_option autoImplicit false

namespace BrokenLinks

variable {config : Config} {pages : Namespace} {tree : FileTree}

namespace Story

variable {α β : Type}

def Spares (story : FileTree → Story α) : Prop :=
  ∀ tree, (story tree).tree = tree

theorem Spares.andThen {story : FileTree → Story α} {next : α → FileTree → Story β}
    (first : Spares story) (others : ∀ value, Spares (next value)) :
    Spares fun tree => (story tree).andThen next := by
  intro tree
  show ((story tree).andThen next).tree = tree
  unfold Story.andThen
  cases (story tree).outcome with
  | ok value => exact (others value _).trans (first tree)
  | error failure => exact first tree

theorem Spares.after {story : FileTree → Story α} (spares : Spares story) (notices : List Notice) :
    Spares fun tree => (story tree).after notices :=
  spares

theorem spares_quiet (outcome : FileTree → Except Failure α) :
    Spares fun tree => .quiet (outcome tree) tree :=
  fun _ => rfl

end Story

theorem spares_pageStory (pages : Namespace) (name : String) :
    Story.Spares (pages.pageStory .dryRun name) := by
  intro tree
  unfold Namespace.pageStory
  split
  next file written done =>
    obtain ⟨-, -, -, left⟩ := @Visit.repairPage_eq_replayIn _ _ _ ⟨pages, name⟩ _ done
    exact left
  next => rfl

theorem spares_pagesStory (dry : config.writeMode = .dryRun) (names : List String)
    (report : SubdirectoryReport) : Story.Spares (pages.pagesStory config names report) := by
  induction names generalizing report with
  | nil => exact Story.spares_quiet _
  | cons name names ih =>
    refine Story.Spares.andThen ?_ fun file => (ih _).after _
    exact dry ▸ spares_pageStory pages name

theorem independent_of_dryRun (visits : List Visit) (layout : Layout) :
    visits.Pairwise (Visit.Independent .dryRun layout) :=
  List.pairwise_of_forall fun _ _ applied => nomatch applied

theorem spares_togetherStory (pages : Namespace) (schedule : Schedule) :
    Story.Spares (pages.togetherStory .dryRun schedule) := by
  -- Of independent tasks, only the completed ones have changed the tree, and not in a dry run.
  intro tree
  obtain ⟨visits, -, replayed⟩ := ((Pool.sound_start pages .dryRun tree).run
    (independent_of_dryRun _ _) (schedule ++ .inOrder pages.names.length)).replayed
  exact replayed

theorem spares_pagesStoryIn (dry : config.writeMode = .dryRun) (schedule : Schedule) :
    Story.Spares (pages.pagesStoryIn config schedule) := by
  unfold Namespace.pagesStoryIn
  split
  · refine Story.Spares.andThen ?_ fun files _ => rfl
    exact dry ▸ spares_togetherStory pages schedule
  · exact spares_pagesStory dry _ _

theorem spares_subdirectoryStory {inside : Namespace → FileTree → Story SubdirectoryReport}
    (spares : ∀ pages, Story.Spares (inside pages)) (path : Path) :
    Story.Spares (subdirectoryStory inside path) := by
  intro tree
  unfold subdirectoryStory
  split
  next pages _ =>
    have finished (report : SubdirectoryReport) : Story.Spares fun written =>
        ⟨.ok report, written, [.finished report.path report.totals]⟩ := fun _ => rfl
    exact (spares pages).andThen finished tree
  next => rfl

theorem spares_subdirectoriesStory {story : Path → FileTree → Story SubdirectoryReport}
    (spares : ∀ path, Story.Spares (story path)) (paths : List Path) (report : RunReport) :
    Story.Spares (subdirectoriesStory story paths report) := by
  induction paths generalizing report with
  | nil => exact Story.spares_quiet _
  | cons path paths ih => exact (spares path).andThen fun subdirectory => ih _

theorem Documentation.spares_storyIn (dry : config.writeMode = .dryRun)
    (schedules : Path → Schedule) (documentation : Documentation) :
    Story.Spares (documentation.storyIn config schedules) := by
  intro tree
  unfold Documentation.storyIn Documentation.storyOf
  split
  · exact spares_subdirectoriesStory (fun path => spares_subdirectoryStory
      (fun pages => spares_pagesStoryIn dry (schedules path)) path) _ _ tree
  · rfl

/-- Nothing is written, so it makes no difference whether pages are read side by side. -/
theorem Documentation.storyIn_agrees_of_dryRun (dry : config.writeMode = .dryRun)
    (schedules : Path → Schedule) (documentation : Documentation) (tree : FileTree) :
    (documentation.storyIn config schedules tree).Agrees (documentation.story config tree) :=
  documentation.storyIn_agrees config schedules fun _ _ _ _ pages _ =>
    dry ▸ independent_of_dryRun pages.visits tree.layout

theorem Run.tree_of_dryRun (dry : config.writeMode = .dryRun) (schedules : Path → Schedule)
    (documentation : Documentation) (state : RunState) :
    ((repairDocumentation config schedules documentation).settle state).2.tree = state.tree := by
  obtain ⟨log, settled⟩ := tells_repairDocumentation_in config schedules documentation state
  rw [settled]
  exact documentation.spares_storyIn dry schedules state.tree

end BrokenLinks
