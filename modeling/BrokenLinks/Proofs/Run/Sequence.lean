import BrokenLinks.Proofs.FileTree.Shown
import BrokenLinks.Proofs.Run.Course

/-! What a run that repairs the documentation in turn does to the tree.

The visits of a run are fixed by the layout that it starts from. A run that succeeds makes them all
in this order, and leaves the tree that results from replaying them. -/

set_option autoImplicit false

namespace BrokenLinks

namespace Documentation

def namespaces (documentation : Documentation) (layout : Layout) :
    Except ListingError (List Namespace) := do
  let paths ← (documentation.subdirectories layout).value
  paths.mapM fun path => (Namespace.load layout path).value

theorem of_mapM_load {layout : Layout} {paths : List Path} {namespaces : List Namespace}
    (loaded : paths.mapM (fun path => (Namespace.load layout path).value) = .ok namespaces) :
    namespaces.map Namespace.path = paths ∧
      ∀ pages ∈ namespaces, (Namespace.load layout pages.path).value = .ok pages := by
  induction paths generalizing namespaces with
  | nil =>
    cases loaded
    simp
  | cons path paths ih =>
    obtain ⟨pages, others, first, rest, rfl⟩ := exists_of_mapM_cons loaded
    obtain ⟨sameOthers, loadedOthers⟩ := ih rest
    have same : pages.path = path := (Namespace.names_ascend first).1
    exact ⟨by simp [same, sameOthers], List.forall_mem_cons.2 ⟨same ▸ first, loadedOthers⟩⟩

theorem mapM_load_path {layout : Layout} {namespaces : List Namespace}
    (loaded : ∀ pages ∈ namespaces, (Namespace.load layout pages.path).value = .ok pages) :
    (namespaces.map Namespace.path).mapM (fun path => (Namespace.load layout path).value) =
      .ok namespaces := by
  induction namespaces with
  | nil => rfl
  | cons pages namespaces ih =>
    obtain ⟨first, others⟩ := List.forall_mem_cons.1 loaded
    rw [List.map_cons, List.mapM_cons, first, ih others]
    rfl

theorem namespaces_eq_ok_iff_exists {documentation : Documentation} {layout : Layout}
    {namespaces : List Namespace} :
    documentation.namespaces layout = .ok namespaces ↔
      (documentation.subdirectories layout).value = .ok (namespaces.map Namespace.path) ∧
        ∀ pages ∈ namespaces, (Namespace.load layout pages.path).value = .ok pages := by
  constructor
  · intro found
    unfold Documentation.namespaces at found
    cases listed : (documentation.subdirectories layout).value with
    | error error => simp [listed, bind, Except.bind] at found
    | ok paths =>
      simp only [listed, bind, Except.bind] at found
      exact ⟨congrArg Except.ok (of_mapM_load found).1.symm, (of_mapM_load found).2⟩
  · rintro ⟨listed, loaded⟩
    rw [Documentation.namespaces, listed]
    exact mapM_load_path loaded

/-- In any layout, the namespaces are those of all directories that the root shows, with all pages
that each of them shows, and there are some only if no listing fails. -/
theorem namespaces_eq_ok_iff {documentation : Documentation} {layout : Layout}
    {namespaces : List Namespace} :
    documentation.namespaces layout = .ok namespaces ↔
      (layout.Lists documentation.root ∧ ∀ pages ∈ namespaces, layout.Lists pages.path) ∧
        (∃ names, layout.ShowsDirectories documentation.root names ∧
          namespaces.map Namespace.path = names.map documentation.root.join) ∧
        ∀ pages ∈ namespaces, layout.ShowsPages pages.path pages.names := by
  simp only [namespaces_eq_ok_iff_exists, subdirectories_eq_ok_iff_showsDirectories,
    Namespace.load_eq_ok_iff_showsPages, true_and, forall_and]
  tauto

end Documentation

namespace FileTree

/-- Each visit reads the text that the visits before it have left, and is reported with the
changes of its repair. -/
inductive Visited : FileTree → List Visit → List FileReport → Prop where
  | nil {tree : FileTree} : Visited tree [] []
  | cons {tree : FileTree} {visit : Visit} {text : String} {visits : List Visit}
      {files : List FileReport} (read : tree.readText visit.path = .ok text)
      (others : Visited (tree.replay [visit]) visits files) :
      Visited tree (visit :: visits) (⟨visit.name, (visit.repair text).changes⟩ :: files)

inductive Documented : FileTree → List Namespace → List SubdirectoryReport → Prop where
  | nil {tree : FileTree} : Documented tree [] []
  | cons {tree : FileTree} {pages : Namespace} {files : List FileReport}
      {namespaces : List Namespace} {reports : List SubdirectoryReport}
      (visited : tree.Visited pages.visits files)
      (others : Documented (tree.replay pages.visits) namespaces reports) :
      Documented tree (pages :: namespaces)
        (files.foldl .record (.new pages.path) :: reports)

end FileTree

namespace FileTree

variable {tree : FileTree}

theorem Visited.append {first second : List Visit} {files others : List FileReport}
    (visited : tree.Visited first files) (after : (tree.replay first).Visited second others) :
    tree.Visited (first ++ second) (files ++ others) := by
  induction visited with
  | nil => exact after
  | cons read _ ih => exact .cons read (ih (by rwa [← replay_cons]))

theorem Documented.visited {namespaces : List Namespace} {reports : List SubdirectoryReport}
    (documented : tree.Documented namespaces reports) :
    ∃ files, tree.Visited (namespaces.flatMap Namespace.visits) files ∧
      (files.map FileReport.changes).sum = (reports.map (·.totals.linksChanged)).sum := by
  induction documented with
  | nil => exact ⟨[], .nil, rfl⟩
  | @cons tree pages files namespaces reports visited others ih =>
    obtain ⟨files', visited', counted⟩ := ih
    refine ⟨files ++ files', visited.append visited', ?_⟩
    simp [counted, Totals.ofFiles]

end FileTree

/-- What a run over the documentation has done when it has made every visit. -/
structure Documentation.Completed (documentation : Documentation) (before after : FileTree)
    (namespaces : List Namespace) (report : RunReport) : Prop where
  listed : documentation.namespaces before.layout = .ok namespaces
  directories : ∃ names, before.layout.ShowsDirectories documentation.root names ∧
    namespaces.map Namespace.path = names.map documentation.root.join
  pages : ∀ pages ∈ namespaces, before.layout.ShowsPages pages.path pages.names
  layout : after.layout = before.layout
  replayed : after = before.replay (namespaces.flatMap Namespace.visits)
  documented : ∃ reports, before.Documented namespaces reports ∧
    report = reports.foldl .push (.new documentation.root false)

variable {config : Config} {tree : FileTree}

namespace FileTree

variable {ended : FileTree}

theorem Repaired.visited {visits : List Visit} {files : List FileReport}
    (repaired : tree.Repaired .apply visits files ended) : tree.Visited visits files := by
  induction repaired with
  | nil => exact .nil
  | @cons tree written ended visit visits file files step others ih =>
    obtain ⟨text, found, rfl, rfl⟩ := visit.repairPage_eq step
    exact .cons found ih

theorem Processed.documented {namespaces : List Namespace} {reports : List SubdirectoryReport}
    (processed : tree.Processed .apply namespaces reports ended) :
    tree.Documented namespaces reports := by
  induction processed with
  | nil => exact .nil
  | @cons tree between ended pages files namespaces reports repaired others ih =>
    obtain rfl : between = tree.replay pages.visits := repaired.eq_replayIn
    exact .cons repaired.visited ih

end FileTree

theorem Documentation.story_ok (applied : config.writeMode = .apply)
    {documentation : Documentation} {report : RunReport}
    (succeeded : (documentation.story config tree).outcome = .ok report) :
    ∃ namespaces,
      documentation.Completed tree (documentation.story config tree).tree namespaces report := by
  obtain ⟨paths, namespaces, reports, ended, listed, loaded, processed⟩ :=
    Documentation.exists_processed_of_story succeeded
  rw [Documentation.story_of_processed listed loaded processed] at succeeded ⊢
  cases succeeded
  have found : documentation.namespaces tree.layout = .ok namespaces := by
    simpa [Documentation.namespaces, listed, bind, Except.bind] using loaded
  obtain ⟨-, directories, pages⟩ := Documentation.namespaces_eq_ok_iff.1 found
  rw [applied] at processed
  refine ⟨namespaces, found, directories, pages, processed.repaired.layout,
    processed.repaired.eq_replayIn, reports, processed.documented, ?_⟩
  simp [Config.isDryRun, applied]

/-- A run in turn that succeeds makes every visit of the layout that it starts from, one repair
each, and nothing else; the pages and the subdirectories are taken in the order of their names. -/
theorem Run.repairDocumentation_ok (applied : config.writeMode = .apply)
    (inTurn : config.parallel = false) {schedules : Path → Schedule} {documentation : Documentation}
    {state ended : RunState} {report : RunReport}
    (done : (repairDocumentation config schedules documentation).settle state =
      (.ok report, ended)) :
    ∃ namespaces, documentation.Completed state.tree ended.tree namespaces report := by
  have told := tells_repairDocumentation inTurn schedules documentation
  obtain ⟨succeeded, left⟩ := told.of_settle done
  rw [← left]
  exact Documentation.story_ok applied succeeded

/-- One file under a name in each of two directories, by a link from one to the other. -/
def aliasedTree : FileTree where
  layout := {
    entries :=
      let docs := Bytes.ofString "docs"
      let first := Bytes.ofString "a"
      let second := Bytes.ofString "b"
      [([], .directory .unrestricted), ([docs], .directory .unrestricted),
        ([first, docs], .directory .unrestricted),
        ([Bytes.ofString "Q1.md", first, docs], .file 0 .unrestricted),
        ([second, docs], .directory .unrestricted),
        ([Bytes.ofString "Q2.md", second, docs], .link (.ofString "../a/Q1.md"))]
    workingDirectory := []
    distinct := by decide }
  contents := fun _ => Bytes.ofString "[y](Q1.md) [x](Q2.md)"

theorem exists_ok_aliasedTree :
    ∃ report ended, (Run.repairDocumentation .default (fun _ => []) ⟨.ofString "docs"⟩).settle
      (.start aliasedTree) = (.ok report, ended) :=
  Run.exists_ok_of_isOk (by cbv)

theorem Run.repairDocumentation_ok_aliased :
    let documentation : Documentation := ⟨.ofString "docs"⟩
    let first : Namespace := ⟨.ofString "docs/a", ["Q1.md"]⟩
    let second : Namespace := ⟨.ofString "docs/b", ["Q2.md"]⟩
    let report : RunReport := ⟨documentation.root, false,
      #[⟨first.path, #[⟨"Q1.md", 1⟩], ⟨1, 1, 1⟩⟩, ⟨second.path, #[⟨"Q2.md", 1⟩], ⟨1, 1, 1⟩⟩],
      ⟨2, 2, 2⟩⟩
    ∃ ended,
      (repairDocumentation .default (fun _ => []) documentation).settle (.start aliasedTree) =
        (.ok report, ended) ∧
      documentation.Completed aliasedTree ended.tree [first, second] report ∧
      ended.tree.contents 0 = Bytes.ofString
        "[y](https://www.wikidata.org/wiki/Q1) [x](https://www.wikidata.org/wiki/Q2)" := by
  intro documentation first second report
  obtain ⟨report', ended, done⟩ := exists_ok_aliasedTree
  have reported : ((repairDocumentation .default (fun _ => []) documentation).settle
      (.start aliasedTree)).1.toOption = some report := by cbv
  have listed : documentation.namespaces aliasedTree.layout = .ok [first, second] := by cbv
  rw [done] at reported
  cases Option.some.inj reported
  obtain ⟨namespaces, completed⟩ := repairDocumentation_ok rfl rfl done
  cases listed.symm.trans completed.listed
  -- The link to `Q1.md` is kept by the first step, where the page is, and led away by the second.
  refine ⟨ended, done, completed, ?_⟩
  rw [completed.replayed]
  cbv

end BrokenLinks
