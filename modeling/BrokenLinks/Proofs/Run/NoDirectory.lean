import BrokenLinks.Proofs.FileTree.Elsewhere
import BrokenLinks.Proofs.Run.Together

/-! The repair of a subdirectory at a path that leads to no directory.

It fails, and nothing is told of it, unless something is at the path that a listing does not tell
from an empty directory. Then a subdirectory without pages is reported. -/

set_option autoImplicit false

namespace BrokenLinks

theorem Pool.run_of_tasks_eq_nil {pool : Pool} (none : pool.tasks = []) (pages : Namespace)
    (mode : WriteMode) (schedule : Schedule) : pool.run pages mode schedule = pool := by
  induction schedule with
  | nil => rfl
  | cons position schedule ih =>
    have idle : pool.step pages mode position = pool := by simp [step, none]
    rw [run, List.foldl_cons, idle]
    exact ih

theorem Namespace.pagesStoryIn_of_no_pages (config : Config) (schedule : Schedule) (path : Path)
    (tree : FileTree) :
    Namespace.pagesStoryIn config schedule ⟨path, []⟩ tree = .quiet (.ok (.new path)) tree := by
  unfold pagesStoryIn
  split
  · have idle (schedule : Schedule) :
        (Pool.start tree []).run ⟨path, []⟩ config.writeMode schedule = .start tree [] :=
      Pool.run_of_tasks_eq_nil rfl _ _ schedule
    simp only [pagesStoryAtOnce, togetherStory, idle]
    rfl
  · rfl

theorem subdirectoryStory_of_seemsEmpty (config : Config) (schedule : Schedule) {path : Path}
    {tree : FileTree} (absent : tree.layout.NoDirectory path)
    (empty : tree.layout.SeemsEmpty path) :
    subdirectoryStory (Namespace.pagesStoryIn config schedule) path tree =
      ⟨.ok (.new path), tree, [.started path 0, .finished path .zero]⟩ := by
  rw [subdirectoryStory_of_ok (Namespace.load_of_seemsEmpty absent empty)]
  simp [Namespace.framed, Namespace.pagesStoryIn_of_no_pages, Story.after, SubdirectoryReport.new]

/-- No pages are repaired where no directory is: a failure is reported, or a subdirectory that has
none. -/
theorem Run.repairSubdirectory_of_noDirectory (config : Config) (schedule : Schedule) (path : Path)
    (state : RunState) :
    let layout := state.tree.layout
    let loaded := (Namespace.load layout path).value
    let run := (repairSubdirectory config schedule path).settle state
    (∀ pages, loaded = .ok pages →
      (layout.Lists path ∧ ∃ place, layout.openDirectory path = .ok place) ∨
        layout.NoDirectory path ∧ layout.SeemsEmpty path) ∧
    (layout.NoDirectory path → layout.SeemsEmpty path →
      loaded = .ok ⟨path, []⟩ ∧ run.1 = .ok (.new path) ∧ run.2.tree = state.tree ∧
        run.2.notices = (state.notices.push (.started path 0)).push (.finished path .zero)) ∧
    (layout.NoDirectory path → ¬layout.SeemsEmpty path →
      ∃ cause, layout.find .followed path = .error cause ∧
        loaded = .error (.unreadable path cause) ∧
        run.1 = .error (.listing (.unreadable path cause)) ∧ run.2.tree = state.tree ∧
        run.2.notices = state.notices) := by
  intro layout loaded run
  obtain ⟨ended, settled, left, told⟩ :=
    (tells_repairSubdirectory_in config schedule path).exists_settle state
  refine ⟨fun _ => Namespace.openDirectory_or_seemsEmpty_of_load, fun absent empty => ?_,
    fun absent notEmpty => ?_⟩
  · rw [subdirectoryStory_of_seemsEmpty config schedule absent empty] at settled left told
    exact ⟨Namespace.load_of_seemsEmpty absent empty, congrArg Prod.fst settled,
      (congrArg (·.2.tree) settled).trans left,
      (congrArg (·.2.notices) settled).trans (told.trans (by simp))⟩
  · obtain ⟨cause, found, failed⟩ := Namespace.load_of_not_seemsEmpty absent notEmpty
    have story : subdirectoryStory (Namespace.pagesStoryIn config schedule) path state.tree =
        .quiet (.error (.listing (.unreadable path cause))) state.tree := by
      rw [subdirectoryStory_of_error failed]
    rw [story] at settled left told
    exact ⟨cause, found, failed, congrArg Prod.fst settled,
      (congrArg (·.2.tree) settled).trans left,
      (congrArg (·.2.notices) settled).trans (told.trans (by simp [Story.quiet]))⟩

def directorylessTree : FileTree where
  layout := {
    entries :=
      let docs := [Bytes.ofString "docs"]
      [([], .directory .unrestricted), (docs, .directory .unrestricted),
        (Bytes.ofString "Q1.md" :: docs, .file 0 .unrestricted),
        (Bytes.ofString "link" :: docs, .link (.ofString "Q1.md")),
        (Bytes.ofString "stale" :: docs, .link (.ofString "gone")),
        (Bytes.ofString "itself" :: docs, .link (.ofString "itself"))]
    workingDirectory := []
    distinct := by decide }
  contents := fun _ => []

theorem Run.repairSubdirectory_of_noDirectory_parallel :
    let layout := directorylessTree.layout
    let config := { Config.default with parallel := true }
    let run (path : Path) :=
      ((repairSubdirectory config [0] path).settle (.start directorylessTree)).1
    let stale := Path.ofString "docs/stale"
    let itself := Path.ofString "docs/itself"
    (layout.NoDirectory stale ∧ layout.SeemsEmpty stale ∧ run stale = .ok (.new stale)) ∧
      layout.NoDirectory itself ∧ ¬layout.SeemsEmpty itself ∧
        ∃ cause, run itself = .error (.listing (.unreadable itself cause)) := by
  intro layout config run stale itself
  have missing : layout.find .followed stale = .error .notFound := by decide +kernel
  have endless : layout.find .followed itself = .error .tooManyLinks := by decide +kernel
  have absent {path : Path} {cause : AccessError}
      (failed : layout.find .followed path = .error cause) : layout.NoDirectory path := by
    simp [Layout.NoDirectory, failed]
  have empty : layout.SeemsEmpty stale := .inr ⟨missing, by decide +kernel⟩
  have notEmpty : ¬layout.SeemsEmpty itself := by simp [Layout.SeemsEmpty, endless]
  obtain ⟨-, passed, -⟩ :=
    repairSubdirectory_of_noDirectory config [0] stale (.start directorylessTree)
  obtain ⟨-, -, failed⟩ :=
    repairSubdirectory_of_noDirectory config [0] itself (.start directorylessTree)
  obtain ⟨-, reported, -⟩ := passed (absent missing) empty
  obtain ⟨cause, -, -, reportedFailure, -⟩ := failed (absent endless) notEmpty
  exact ⟨⟨absent missing, empty, reported⟩, absent endless, notEmpty, cause, reportedFailure⟩

/-- A file is not told from an empty directory. -/
theorem Namespace.not_always_fails_without_directory :
    ¬∀ (layout : Layout) (path : Path), layout.NoDirectory path →
      ∃ error, (Namespace.load layout path).value = .error error := by
  intro always
  have found : directorylessTree.layout.find .followed (.ofString "docs/Q1.md") =
      .ok ([Bytes.ofString "Q1.md", Bytes.ofString "docs"], .file 0 .unrestricted) := by
    decide +kernel
  have absent : directorylessTree.layout.NoDirectory (.ofString "docs/Q1.md") := by
    simp [Layout.NoDirectory, found]
  obtain ⟨error, failed⟩ := always _ _ absent
  rw [load_of_seemsEmpty absent (.inl ⟨_, found⟩)] at failed
  contradiction

end BrokenLinks
