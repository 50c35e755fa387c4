import BrokenLinks.Proofs.Run.Sequence

/-! Runs in turn that are interrupted by a failure.

A run is interrupted at the first subdirectory that cannot be listed or the first page that fails.
What it has completed before remains, on disk and in the notices, and nothing else. -/

set_option autoImplicit false

namespace BrokenLinks

def Namespace.ComesTo (pages : Namespace) (mode : WriteMode) (before : FileTree)
    (done : List String) (name : String) (files : List FileReport) (reached : FileTree) : Prop :=
  done ++ [name] <+: pages.names ∧ before.Repaired mode (done.map (⟨pages, ·⟩)) files reached

/-- All subdirectories before this one, in the order of their names, are completed. -/
structure Documentation.ComesTo (documentation : Documentation) (mode : WriteMode)
    (before : FileTree) (namespaces : List Namespace) (reports : List SubdirectoryReport)
    (path : Path) (between : FileTree) : Prop where
  listed : ∃ names : List Name, names.Pairwise (· < ·) ∧
    (documentation.subdirectories before.layout).value =
      .ok (names.map documentation.root.join) ∧
    namespaces.map Namespace.path ++ [path] <+: names.map documentation.root.join
  loaded : ∀ pages ∈ namespaces, (Namespace.load before.layout pages.path).value = .ok pages
  processed : before.Processed mode namespaces reports between

/-- How a run leaves everything that fails after the root has been listed. -/
inductive Documentation.Interrupted (documentation : Documentation) (config : Config)
    (before after : FileTree) : Failure → List Notice → Prop where
  /-- A subdirectory cannot be listed, and is not told of. -/
  | listing {namespaces : List Namespace} {reports : List SubdirectoryReport} {path : Path}
      {error : ListingError}
      (reached : documentation.ComesTo config.writeMode before namespaces reports path after)
      (unlisted : (Namespace.load before.layout path).value = .error error)
      (replayed : after =
        before.replayIn config.writeMode (namespaces.flatMap Namespace.visits)) :
      Interrupted documentation config before after (.listing error)
        (reports.flatMap (·.notices config.interval))
  /-- A page fails, after the start of its subdirectory and the pages before it have been told. -/
  | page {namespaces : List Namespace} {reports : List SubdirectoryReport} {pages : Namespace}
      {between : FileTree} {done : List String} {name : String} {files : List FileReport}
      {failure : Failure}
      (reached :
        documentation.ComesTo config.writeMode before namespaces reports pages.path between)
      (loaded : (Namespace.load before.layout pages.path).value = .ok pages)
      (ascend : (pages.names.map Bytes.ofString).Pairwise (· < ·))
      (reachedPage : pages.ComesTo config.writeMode between done name files after)
      (fails : Visit.Fails ⟨pages, name⟩ config.writeMode after failure)
      (replayed : after = before.replayIn config.writeMode
        (namespaces.flatMap Namespace.visits ++ done.map (⟨pages, ·⟩))) :
      Interrupted documentation config before after failure
        (reports.flatMap (·.notices config.interval) ++
          .started pages.path pages.names.length ::
            pageNotices config.interval pages.path files 1)

/-! ## The first failure -/

variable {config : Config} {mode : WriteMode}

theorem Namespace.repaired_or_fails (pages : Namespace) (mode : WriteMode) (before : FileTree) :
    (∃ files ended, before.Repaired mode pages.visits files ended) ∨
      ∃ done name files reached failure, pages.ComesTo mode before done name files reached ∧
        Visit.Fails ⟨pages, name⟩ mode reached failure := by
  rcases before.repaired_or_fails mode pages.visits with completed | ⟨done, visit, rest, files,
    reached, failure, parts, repaired, fails⟩
  · exact .inl completed
  · obtain ⟨names, more, all, rfl, next⟩ := List.map_eq_append_iff.1 parts
    obtain ⟨name, others, rfl, rfl, -⟩ := List.map_eq_cons_iff.1 next
    exact .inr ⟨names, name, files, reached, failure, ⟨⟨others, by simp [all]⟩, repaired⟩, fails⟩

theorem FileTree.processed_or_fails (mode : WriteMode) (tree : FileTree) (paths : List Path) :
    (∃ namespaces reports ended,
      paths.mapM (fun path => (Namespace.load tree.layout path).value) = .ok namespaces ∧
      tree.Processed mode namespaces reports ended) ∨
    ∃ earlier path later namespaces reports between, paths = earlier ++ path :: later ∧
      earlier.mapM (fun path => (Namespace.load tree.layout path).value) = .ok namespaces ∧
      tree.Processed mode namespaces reports between ∧
      ((∃ error, (Namespace.load tree.layout path).value = .error error) ∨
        ∃ pages done name files reached failure,
          (Namespace.load tree.layout path).value = .ok pages ∧
          pages.ComesTo mode between done name files reached ∧
          Visit.Fails ⟨pages, name⟩ mode reached failure) := by
  induction paths generalizing tree with
  | nil => exact .inl ⟨[], [], tree, rfl, .nil⟩
  | cons path paths ih =>
    cases loaded : (Namespace.load tree.layout path).value with
    | error error =>
      exact .inr ⟨[], path, paths, [], [], tree, rfl, rfl, .nil, .inl ⟨error, loaded⟩⟩
    | ok pages =>
      rcases pages.repaired_or_fails mode tree with ⟨files, between, repaired⟩ | ⟨done, name, files,
        reached, failure, reachedPage, fails⟩
      · rw [← repaired.layout] at loaded ⊢
        have cons {others : List Path} {namespaces : List Namespace}
            (rest : others.mapM (fun path => (Namespace.load between.layout path).value) =
              .ok namespaces) :
            (path :: others).mapM (fun path => (Namespace.load between.layout path).value) =
              .ok (pages :: namespaces) := by
          simp [List.mapM_cons, loaded, rest, bind, Except.bind, pure, Except.pure]
        rcases ih between with ⟨namespaces, reports, ended, rest, processed⟩ | ⟨earlier, path',
          later, namespaces, reports, reached, rfl, rest, processed, stop⟩
        · exact .inl ⟨_, _, ended, cons rest, .cons repaired processed⟩
        · exact .inr ⟨path :: earlier, path', later, _, _, reached, rfl, cons rest,
            .cons repaired processed, stop⟩
      · exact .inr ⟨[], path, paths, [], [], tree, rfl, rfl, .nil,
          .inr ⟨pages, done, name, files, reached, failure, loaded, reachedPage, fails⟩⟩

theorem Documentation.comesTo_of_split {documentation : Documentation} {before between : FileTree}
    {earlier later : List Path} {path : Path} {namespaces : List Namespace}
    {reports : List SubdirectoryReport}
    (listed : (documentation.subdirectories before.layout).value = .ok (earlier ++ path :: later))
    (loaded : earlier.mapM (fun path => (Namespace.load before.layout path).value) = .ok namespaces)
    (processed : before.Processed mode namespaces reports between) :
    documentation.ComesTo mode before namespaces reports path between := by
  obtain ⟨-, names, shown, named⟩ := subdirectories_eq_ok_iff_showsDirectories.1 listed
  obtain ⟨paths, namespacesLoaded⟩ := of_mapM_load loaded
  refine ⟨⟨names, shown.ascend, named ▸ listed, later, ?_⟩, namespacesLoaded, processed⟩
  rw [paths, ← named]
  simp

theorem Documentation.story_error {documentation : Documentation} {before : FileTree}
    {paths : List Path} {failure : Failure}
    (listed : (documentation.subdirectories before.layout).value = .ok paths)
    (failed : (documentation.story config before).outcome = .error failure) :
    documentation.Interrupted config before (documentation.story config before).tree failure
      (documentation.story config before).notices := by
  have told : documentation.story config before = _ := storyOf_of_ok listed
  rcases before.processed_or_fails config.writeMode paths with ⟨namespaces, reports, ended, loaded,
    processed⟩ | ⟨earlier, path, later, namespaces, reports, between, rfl, loaded, processed, stop⟩
  · -- A run that completes every subdirectory does not fail.
    rw [story_of_processed listed loaded processed] at failed
    contradiction
  · have reached := comesTo_of_split listed loaded processed
    have visited := processed.repaired
    rw [processed.subdirectoriesStory_append loaded, subdirectoriesStory] at told
    rcases stop with ⟨error, unlisted⟩ | ⟨pages, done, name, files, after, failure', loadedPages,
      reachedPage, fails⟩
    · rw [← visited.layout] at unlisted
      rw [subdirectoryStory_of_error unlisted, Story.quiet_error_andThen, Story.after_quiet] at told
      rw [told] at failed ⊢
      cases failed
      exact .listing reached (visited.layout ▸ unlisted) visited.eq_replayIn
    · obtain ⟨⟨rest, split⟩, repaired⟩ := reachedPage
      have parts : pages.names = done ++ name :: rest := by simp [← split]
      obtain ⟨same, ascend⟩ := Namespace.names_ascend loadedPages
      rw [← visited.layout] at loadedPages
      rw [subdirectoryStory_of_ok loadedPages,
        repaired.framed_of_fails parts fails] at told
      simp only [Story.andThen, Story.after_mk] at told
      rw [told] at failed ⊢
      cases failed
      exact .page (same ▸ reached) (same ▸ visited.layout ▸ loadedPages) ascend
        ⟨⟨rest, split⟩, repaired⟩ fails (visited.append repaired).eq_replayIn

/-- A run in turn that fails after the root has been listed is interrupted at the first failure:
all that is completed before is on disk and has been told of, in order, and nothing else. -/
theorem Run.repairDocumentation_error (inTurn : config.parallel = false)
    {schedules : Path → Schedule} {documentation : Documentation} {state ended : RunState}
    {paths : List Path} {failure : Failure}
    (listed : (documentation.subdirectories state.tree.layout).value = .ok paths)
    (failed : (repairDocumentation config schedules documentation).settle state =
      (.error failure, ended)) :
    ∃ notices : List Notice, ended.notices = state.notices ++ notices ∧
      documentation.Interrupted config state.tree ended.tree failure notices := by
  have told := tells_repairDocumentation inTurn schedules documentation
  obtain ⟨outcome, left⟩ := told.of_settle failed
  refine ⟨_, told.notices_of_settle failed, ?_⟩
  rw [← left]
  exact Documentation.story_error listed outcome

def guardedTree : FileTree where
  layout := {
    entries :=
      let docs := Bytes.ofString "docs"
      let first := Bytes.ofString "a"
      let second := Bytes.ofString "b"
      [([], .directory .unrestricted), ([docs], .directory .unrestricted),
        ([first, docs], .directory .unrestricted),
        ([Bytes.ofString "Q1.md", first, docs], .file 0 .unrestricted),
        ([second, docs], .directory .unrestricted),
        ([Bytes.ofString "Q2.md", second, docs], .file 1 .unrestricted),
        ([Bytes.ofString "Q3.md", second, docs], .file 2 ⟨true, false, true⟩)]
    workingDirectory := []
    distinct := by decide }
  contents := fun _ => Bytes.ofString "[x](Q4.md)"

theorem Run.repairDocumentation_error_guarded :
    let documentation : Documentation := ⟨.ofString "docs"⟩
    let failure : Failure := .writing (.ofString "docs/b/Q3.md") .permissionDenied
    ∃ ended, (repairDocumentation .default (fun _ => []) documentation).settle
        (.start guardedTree) = (.error failure, ended) ∧
      ∃ notices : List Notice, ended.notices.toList = notices ∧
        documentation.Interrupted .default guardedTree ended.tree failure notices := by
  intro documentation failure
  have listed : (documentation.subdirectories guardedTree.layout).value =
      .ok [.ofString "docs/a", .ofString "docs/b"] := by cbv
  have failed : ((repairDocumentation .default (fun _ => []) documentation).settle
      (.start guardedTree)).1 = .error failure := by cbv
  obtain ⟨notices, told, interrupted⟩ :=
    repairDocumentation_error rfl listed (Prod.ext failed rfl)
  exact ⟨_, Prod.ext failed rfl, notices, by rw [told]; simp [RunState.start], interrupted⟩

end BrokenLinks
