import BrokenLinks.Proofs.Run.Together

/-! What the interval between checkpoints makes of a run: notices, and nothing else. -/

set_option autoImplicit false

namespace BrokenLinks

namespace Story

variable {α β : Type} {first second : Story α}

def Alike (first second : Story α) : Prop :=
  first.outcome = second.outcome ∧ first.tree = second.tree

theorem alike_refl (story : Story α) : story.Alike story :=
  ⟨rfl, rfl⟩

theorem Alike.after (alike : first.Alike second) (notices notices' : List Notice) :
    (first.after notices).Alike (second.after notices') :=
  alike

theorem Alike.andThen (alike : first.Alike second) {next next' : α → FileTree → Story β}
    (others : ∀ value tree, (next value tree).Alike (next' value tree)) :
    (first.andThen next).Alike (second.andThen next') := by
  obtain ⟨outcome, tree⟩ := alike
  unfold Story.andThen
  rw [← outcome, ← tree]
  cases first.outcome with
  | ok value => exact (others value first.tree).after _ _
  | error failure => exact ⟨rfl, rfl⟩

end Story

variable {config : Config} {pages : Namespace}

theorem pagesStory_alike (config : Config) (interval : Interval) (names : List String)
    (report : SubdirectoryReport) (tree : FileTree) :
    (pages.pagesStory { config with interval } names report tree).Alike
      (pages.pagesStory config names report tree) := by
  induction names generalizing report tree with
  | nil => exact Story.alike_refl _
  | cons name names ih =>
    exact (Story.alike_refl _).andThen fun file written => (ih _ written).after _ _

theorem pagesStoryIn_alike (config : Config) (interval : Interval) (schedule : Schedule)
    (pages : Namespace) (tree : FileTree) :
    (pages.pagesStoryIn { config with interval } schedule tree).Alike
      (pages.pagesStoryIn config schedule tree) := by
  unfold Namespace.pagesStoryIn
  split
  · exact (Story.alike_refl _).andThen fun files written => ⟨rfl, rfl⟩
  · exact pagesStory_alike config interval _ _ tree

theorem subdirectoryStory_alike
    {inside inside' : Namespace → FileTree → Story SubdirectoryReport}
    (alike : ∀ pages tree, (inside pages tree).Alike (inside' pages tree)) (path : Path)
    (tree : FileTree) :
    (subdirectoryStory inside path tree).Alike (subdirectoryStory inside' path tree) := by
  unfold subdirectoryStory
  split
  · exact ((alike _ tree).andThen fun _ _ => Story.alike_refl _).after _ _
  · exact Story.alike_refl _

theorem subdirectoriesStory_alike {story story' : Path → FileTree → Story SubdirectoryReport}
    (alike : ∀ path tree, (story path tree).Alike (story' path tree)) (paths : List Path)
    (report : RunReport) (tree : FileTree) :
    (subdirectoriesStory story paths report tree).Alike
      (subdirectoriesStory story' paths report tree) := by
  induction paths generalizing report tree with
  | nil => exact Story.alike_refl _
  | cons path paths ih => exact (alike path tree).andThen fun _ written => ih _ written

/-- Under any schedule, the outcome of a run and the tree that it leaves are the same for all
intervals. -/
theorem Documentation.storyIn_alike (config : Config) (interval : Interval)
    (schedules : Path → Schedule) (documentation : Documentation) (tree : FileTree) :
    (documentation.storyIn { config with interval } schedules tree).Alike
      (documentation.storyIn config schedules tree) := by
  unfold Documentation.storyIn Documentation.storyOf
  split
  · exact subdirectoriesStory_alike (fun path => subdirectoryStory_alike
      (pagesStoryIn_alike config interval (schedules path)) path) _ _ tree
  · exact Story.alike_refl _

end BrokenLinks
