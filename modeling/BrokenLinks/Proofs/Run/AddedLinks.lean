import BrokenLinks.Proofs.Run.Extension

/-! Runs over trees to which symbolic links have been added.

A run meets a link only where it lists the directory that holds it. Links to nothing are passed
over there, and the run does and tells what it did without them. A link that fails the listing of
its directory ends the run. -/

set_option autoImplicit false

namespace BrokenLinks

namespace Documentation

variable {config : Config} {documentation : Documentation} {tree ended : FileTree}
  {extended : Layout} {links : List AddedLink} {link : AddedLink} {base : Location} {path : Path}
  {paths : List Path} {namespaces : List Namespace} {reports : List SubdirectoryReport}

/-- A run lists the directory at the place, and does so by this path. -/
def ListsAt (documentation : Documentation) (layout : Layout) (path : Path)
    (place : Location) : Prop :=
  (path = documentation.root ∨
    ∃ paths, (documentation.subdirectories layout).value = .ok paths ∧ path ∈ paths) ∧
  layout.openDirectory path = .ok place

/-- The path of the root, or of a directory that is an entry of the root and no link. -/
inductive OwnPath (documentation : Documentation) (layout : Layout) : Path → Location → Prop where
  | root {base : Location} (opened : layout.openDirectory documentation.root = .ok base) :
      OwnPath documentation layout documentation.root base
  | entry {base : Location} {name : Name} {access : Access}
      (opened : layout.openDirectory documentation.root = .ok base)
      (held : layout.node? (name :: base) = some (.directory access)) :
      OwnPath documentation layout (documentation.root.join name) (name :: base)

theorem ListsAt.lists (listsAt : documentation.ListsAt tree.layout path base)
    (complete : tree.layout.Lists documentation.root)
    (listed : (documentation.subdirectories tree.layout).value = .ok paths)
    (loaded : paths.mapM (fun path => (Namespace.load tree.layout path).value) = .ok namespaces) :
    tree.layout.Lists path := by
  rcases listsAt.1 with rfl | ⟨paths', again, member⟩
  · exact complete
  · cases listed.symm.trans again
    obtain ⟨pages, found⟩ := exists_ok_of_mapM loaded path member
    exact (Namespace.load_eq_ok_iff.1 found).1

theorem story_withLayout (gains : tree.layout.Gains links extended)
    (opened : tree.layout.openDirectory documentation.root = .ok base)
    (listed : (documentation.subdirectories tree.layout).value = .ok paths)
    (loaded : paths.mapM (fun path => (Namespace.load tree.layout path).value) = .ok namespaces)
    (processed : tree.Processed config.writeMode namespaces reports ended)
    (dangling : ∀ link ∈ links, ∀ path, documentation.ListsAt tree.layout path link.directory →
      link.Dangles extended path) :
    documentation.story config (tree.withLayout extended) =
      ⟨.ok (reports.foldl .push (.new documentation.root config.isDryRun)),
        ended.withLayout extended, reports.flatMap (·.notices config.interval)⟩ := by
  refine story_of_processed ?_ (mapM_eq_ok_of_imp (fun path member pages found => ?_) loaded)
    (processed.withLayout gains)
  · refine gains.subdirectories opened (fun link added here => ?_) listed
    exact dangling link added _ ⟨.inl rfl, here ▸ opened⟩
  · have lists := (Namespace.load_eq_ok_iff.1 found).1
    obtain ⟨_, _, place, -, -, opens⟩ :=
      gains.exists_of_mem_subdirectories opened listed member lists
    refine gains.load opens (fun link added here => ?_) found
    exact dangling link added _ ⟨.inr ⟨paths, listed, member⟩, here ▸ opens⟩

theorem story_obstructed_root (gains : tree.layout.Gains [link] extended)
    (opened : tree.layout.openDirectory documentation.root = .ok link.directory)
    (obstructs : link.Obstructs extended documentation.root) :
    ∃ error, (documentation.story config (tree.withLayout extended)).outcome =
      .error (.listing error) := by
  have unlisted := gains.not_lists (List.mem_singleton_self link) opened obstructs
  obtain ⟨error, failed⟩ : ∃ error,
      (documentation.subdirectories (tree.withLayout extended).layout).value = .error error :=
    exists_subdirectories_error_iff.2 unlisted
  exact ⟨error, by rw [story, storyOf_of_error failed, Story.outcome_quiet]⟩

theorem load_of_obstructed (gains : tree.layout.Gains [link] extended)
    (opened : tree.layout.openDirectory documentation.root = .ok base)
    (listed : (documentation.subdirectories tree.layout).value = .ok paths)
    (loaded : paths.mapM (fun path => (Namespace.load tree.layout path).value) = .ok namespaces)
    (everywhere : ∀ other ∈ paths, tree.layout.openDirectory other = .ok link.directory →
      link.Obstructs extended other)
    (member : path ∈ paths) {pages : Namespace}
    (found : (Namespace.load extended path).value = .ok pages) :
    (Namespace.load tree.layout path).value = .ok pages := by
  obtain ⟨pages', was⟩ := exists_ok_of_mapM loaded path member
  obtain ⟨_, _, place, -, -, opens⟩ := gains.exists_of_mem_subdirectories opened listed member
    (Namespace.load_eq_ok_iff.1 was).1
  by_cases here : place = link.directory
  · subst here
    have unlisted := gains.not_lists (List.mem_singleton_self link) opens
      (everywhere path member opens)
    exact absurd (Namespace.load_eq_ok_iff.1 found).1 unlisted
  · have now := gains.load opens (fun other same at' =>
      absurd (List.mem_singleton.1 same ▸ at') (Ne.symm here)) was
    rwa [← Except.ok.inj (now.symm.trans found)]

/-- With an obstacle in a directory right below the root, no run succeeds. It fails when it comes to
list the directory, if the obstacle is met however the directory is listed. -/
theorem story_obstructed_entry (gains : tree.layout.Gains [link] extended)
    (opened : tree.layout.openDirectory documentation.root = .ok base)
    (elsewhere : link.directory ≠ base)
    (listed : (documentation.subdirectories tree.layout).value = .ok paths)
    (loaded : paths.mapM (fun path => (Namespace.load tree.layout path).value) = .ok namespaces)
    (processed : tree.Processed config.writeMode namespaces reports ended) (member : path ∈ paths)
    (opens : tree.layout.openDirectory path = .ok link.directory)
    (obstructs : link.Obstructs extended path) :
    ∃ failure, (documentation.story config (tree.withLayout extended)).outcome = .error failure ∧
      ((∀ other ∈ paths, tree.layout.openDirectory other = .ok link.directory →
        link.Obstructs extended other) → ∃ error, failure = .listing error) := by
  have added : link ∈ [link] := List.mem_singleton_self link
  have unlisted := gains.not_lists added opens obstructs
  have listed' : (documentation.subdirectories (tree.withLayout extended).layout).value =
      .ok paths := by
    refine gains.subdirectories opened (fun other same root => ?_) listed
    exact absurd (List.mem_singleton.1 same ▸ root) elsewhere
  cases outcome : (documentation.story config (tree.withLayout extended)).outcome with
  | ok report =>
    obtain ⟨paths', _, _, _, again, loaded', -⟩ := exists_processed_of_story outcome
    cases listed'.symm.trans again
    obtain ⟨pages, found⟩ := exists_ok_of_mapM loaded' path member
    exact absurd (Namespace.load_eq_ok_iff.1 found).1 unlisted
  | error failure =>
    refine ⟨failure, rfl, fun everywhere => ?_⟩
    have kept : ∀ other ∈ paths, ∀ pages, (Namespace.load extended other).value = .ok pages →
        (Namespace.load tree.layout other).value = .ok pages :=
      fun other memberOther pages => load_of_obstructed gains opened listed loaded everywhere
        memberOther
    obtain ⟨error, stopped⟩ := processed.subdirectoriesStory_stops gains loaded kept
      ⟨path, member, unlisted⟩ (.new documentation.root config.isDryRun)
    rw [story, storyOf_of_ok listed'] at outcome
    exact ⟨error, (Except.error.inj (stopped.symm.trans outcome)).symm⟩

theorem story_obstructed (gains : tree.layout.Gains [link] extended)
    (listed : (documentation.subdirectories tree.layout).value = .ok paths)
    (loaded : paths.mapM (fun path => (Namespace.load tree.layout path).value) = .ok namespaces)
    (processed : tree.Processed config.writeMode namespaces reports ended)
    (own : documentation.OwnPath tree.layout path link.directory)
    (obstructs : link.Obstructs extended path) :
    ∃ failure, (documentation.story config (tree.withLayout extended)).outcome = .error failure ∧
      (path = documentation.root ∨ (path.join link.name).bytes.length ≤ Layout.pathLimit ∨
        (∀ other, documentation.ListsAt tree.layout other link.directory → other = path) →
        ∃ error, failure = .listing error) := by
  generalize here : link.directory = place at own
  cases own with
  | root opened =>
    obtain ⟨error, failed⟩ := story_obstructed_root gains (here ▸ opened) obstructs
    exact ⟨_, failed, fun _ => ⟨error, rfl⟩⟩
  | @entry base name access opened held =>
    have member := join_mem_subdirectories opened listed held
    obtain ⟨pages, found⟩ := exists_ok_of_mapM loaded _ member
    obtain ⟨spent, _, reaches, directory⟩ := Layout.exists_reaches_of_openDirectory opened
    have proper := gains.isEntryName (gains.node?_of_some held)
    have opens := reaches.openDirectory_join directory proper held
      (Namespace.load_eq_ok_iff.1 found).1
    rw [← here] at opens held
    obtain ⟨failure, failed, stops⟩ := story_obstructed_entry gains opened
      (here ▸ List.cons_ne_self _ _) listed loaded processed member opens obstructs
    refine ⟨failure, failed, fun met => stops fun other memberOther opensOther => ?_⟩
    rcases met with same | short | sole
    · exact absurd same (Path.join_ne proper reaches.nonempty)
    · obtain ⟨pages', was⟩ := exists_ok_of_mapM loaded other memberOther
      obtain ⟨name', child, _, rfl, old, -⟩ := gains.exists_of_mem_subdirectories opened listed
        memberOther (Namespace.load_eq_ok_iff.1 was).1
      exact gains.obstructs_join (List.mem_singleton_self link) opened held here opens old
        opensOther short obstructs
    · exact sole other ⟨.inr ⟨paths, listed, memberOther⟩, here ▸ opensOther⟩ ▸ obstructs

end Documentation

theorem Layout.Gains.ofRoot {layout extended : Layout} {links : List AddedLink} {root : Path}
    {documentation : Documentation} (gains : layout.Gains links extended)
    (found : Documentation.ofRoot layout root = .ok documentation) :
    Documentation.ofRoot extended root = .ok documentation := by
  obtain ⟨rfl, place, access, leads⟩ := Documentation.exists_of_ofRoot found
  simp only [Documentation.ofRoot, gains.find_followed leads]

theorem Layout.Gains.exists_load_missing {layout extended : Layout} {links : List AddedLink}
    {link : AddedLink} {path : Path} (gains : layout.Gains links extended) (added : link ∈ links)
    (opens : layout.openDirectory path = .ok link.directory)
    (dangling : ∀ other ∈ links, other.directory = link.directory → other.Dangles extended path)
    (lists : layout.Lists path) :
    ∃ pages, (Namespace.load extended path).value = .ok pages ∧ ∀ broken : Link,
      broken.isExternal = false → Bytes.ofString (String.ofList broken.fileName) = link.name →
      broken.verdict pages.contains = .missing := by
  have was := Namespace.load_eq_ok_iff.2 ⟨lists, rfl⟩
  refine ⟨_, gains.load opens dangling was, fun broken internal named => ?_⟩
  have absent := gains.contains_eq_false added opens was named
  simp [Link.verdict, internal, absent]

/-- Links to nothing that are added to a tree change nothing of a run in turn that succeeds, neither
its report nor its notices nor what it writes, and a link to a page that would be named like one of
them is still broken. One link that is an obstacle in a directory that the run lists, be it the root
or an entry of it, makes the run fail; and it fails with the listing of the directory, unless the
path of the link is too long and the directory is listed by another path as well. -/
theorem Run.repairDocumentation_withLayout {config : Config} (inTurn : config.parallel = false)
    {schedules : Path → Schedule} {tree : FileTree} {root : Path} {documentation : Documentation}
    (openedRoot : Documentation.ofRoot tree.layout root = .ok documentation) {report : RunReport}
    {ended : RunState}
    (done : (repairDocumentation config schedules documentation).settle (.start tree) =
      (.ok report, ended)) :
    (∀ (links : List AddedLink) (extended : Layout), tree.layout.Gains links extended →
      (∀ link ∈ links, ∀ path, documentation.ListsAt tree.layout path link.directory →
        link.Dangles extended path) →
      Documentation.ofRoot extended root = .ok documentation ∧
      (∃ after, (repairDocumentation config schedules documentation).settle
          (.start (tree.withLayout extended)) = (.ok report, after) ∧
        after.notices = ended.notices ∧ after.tree = ended.tree.withLayout extended) ∧
      ∀ link ∈ links, ∀ path, documentation.ListsAt tree.layout path link.directory →
        ∃ pages, (Namespace.load extended path).value = .ok pages ∧ ∀ broken : Link,
          broken.isExternal = false →
          Bytes.ofString (String.ofList broken.fileName) = link.name →
          broken.verdict pages.contains = .missing) ∧
    ∀ (link : AddedLink) (extended : Layout) (path : Path), tree.layout.Gains [link] extended →
      documentation.OwnPath tree.layout path link.directory → link.Obstructs extended path →
      Documentation.ofRoot extended root = .ok documentation ∧
      ∃ failure after, (repairDocumentation config schedules documentation).settle
          (.start (tree.withLayout extended)) = (.error failure, after) ∧
        (path = root ∨ (path.join link.name).bytes.length ≤ Layout.pathLimit ∨
          (∀ other, documentation.ListsAt tree.layout other link.directory → other = path) →
          ∃ error, failure = .listing error) := by
  have told := tells_repairDocumentation inTurn schedules documentation
  obtain ⟨succeeded, left⟩ := told.of_settle done
  have notices := told.notices_of_settle done
  obtain ⟨paths, namespaces, reports, reached, listed, loaded, processed⟩ :=
    Documentation.exists_processed_of_story succeeded
  have story : documentation.story config (RunState.start tree).tree = _ :=
    Documentation.story_of_processed listed loaded processed
  rw [story] at succeeded left notices
  obtain ⟨rfl, base, access, found⟩ := Documentation.exists_of_ofRoot openedRoot
  have lists := (Documentation.subdirectories_eq_ok_iff.1 listed).1
  have opened := lists.openDirectory found
  refine ⟨fun links extended gains dangling => ⟨gains.ofRoot openedRoot, ?_, ?_⟩,
    fun link extended path gains own obstructs => ⟨gains.ofRoot openedRoot, ?_⟩⟩
  · have story' :
        Documentation.story config _ (RunState.start (tree.withLayout extended)).tree = _ :=
      Documentation.story_withLayout gains opened listed loaded processed dangling
    obtain ⟨after, settled, same, toldAfter⟩ :=
      told.exists_settle (.start (tree.withLayout extended))
    rw [story'] at settled same toldAfter
    exact ⟨after, settled.trans (by rw [← succeeded]), toldAfter.trans notices.symm,
      same.trans (by rw [← left])⟩
  · intro link added path listsAt
    refine gains.exists_load_missing added listsAt.2 (fun other addedOther same => ?_)
      (listsAt.lists lists listed loaded)
    exact dangling other addedOther path ⟨listsAt.1, same ▸ listsAt.2⟩
  · obtain ⟨failure, failed, stops⟩ :=
      Documentation.story_obstructed gains listed loaded processed own obstructs
    obtain ⟨after, settled, -⟩ := told.exists_settle (.start (tree.withLayout extended))
    exact ⟨failure, after, settled.trans (congrArg (·, after) failed), stops⟩

def singlePageTree : FileTree where
  layout := {
    entries :=
      let docs := Bytes.ofString "docs"
      let tree := Bytes.ofString "tree"
      [([], .directory .unrestricted), ([docs], .directory .unrestricted),
        ([tree, docs], .directory .unrestricted),
        ([Bytes.ofString "Q2.md", tree, docs], .file 0 .unrestricted)]
    workingDirectory := []
    distinct := by decide }
  contents := fun _ => Bytes.ofString "[m](Q9.md)"

def staleLinks : List AddedLink :=
  let docs := [Bytes.ofString "docs"]
  let tree := Bytes.ofString "tree" :: docs
  [⟨docs, Bytes.ofString "old", .ofString "../gone"⟩,
    ⟨tree, Bytes.ofString "Q9.md", .ofString "stale.txt"⟩,
    ⟨tree, Bytes.ofString "stale.txt", .ofString "../../gone.txt"⟩]

def loopLink : AddedLink :=
  ⟨[Bytes.ofString "tree", Bytes.ofString "docs"], Bytes.ofString "loop", .ofString "../tree"⟩

def staleLayout : Layout := singlePageTree.layout.withLinks staleLinks (by decide)

def loopLayout : Layout := singlePageTree.layout.withLinks [loopLink] (by decide)

theorem Run.repairDocumentation_withLayout_stale :
    let documentation : Documentation := ⟨.ofString "docs"⟩
    let run (tree : FileTree) :=
      (repairDocumentation .default (fun _ => []) documentation).settle (.start tree)
    ∃ report ended, run singlePageTree = (.ok report, ended) ∧
      (∃ after, run (singlePageTree.withLayout staleLayout) = (.ok report, after) ∧
        after.notices = ended.notices ∧ after.tree = ended.tree.withLayout staleLayout) ∧
      ∃ error after,
        run (singlePageTree.withLayout loopLayout) = (.error (.listing error), after) := by
  intro documentation run
  have openedRoot : Documentation.ofRoot singlePageTree.layout (.ofString "docs") =
      .ok documentation := by decide +kernel
  have listed : (documentation.subdirectories singlePageTree.layout).value =
      .ok [.ofString "docs/tree"] := by cbv
  obtain ⟨report, ended, done⟩ : ∃ report ended, run singlePageTree = (.ok report, ended) :=
    Run.exists_ok_of_isOk (by cbv)
  obtain ⟨passed, stopped⟩ := repairDocumentation_withLayout rfl openedRoot done
  refine ⟨report, ended, done, ?_, ?_⟩
  · have gains : singlePageTree.layout.Gains staleLinks staleLayout :=
      Layout.gains_withLinks (by decide +kernel) ⟨by decide +kernel, by decide +kernel⟩
    have dangle : ∀ link ∈ staleLinks, ∀ path ∈ [Path.ofString "docs", Path.ofString "docs/tree"],
        singlePageTree.layout.openDirectory path = .ok link.directory →
        staleLayout.find .followed (path.join link.name) = .error .notFound := by decide +kernel
    refine (passed staleLinks staleLayout gains fun link added path listsAt => ?_).2.1
    obtain ⟨lists, opens⟩ := listsAt
    refine dangle link added path ?_ opens
    rcases lists with rfl | ⟨paths, again, member⟩
    · exact List.mem_cons_self
    · cases listed.symm.trans again
      exact List.mem_cons_of_mem _ member
  · have gains : singlePageTree.layout.Gains [loopLink] loopLayout :=
      Layout.gains_withLinks (by decide +kernel) ⟨by decide +kernel, by decide +kernel⟩
    have opened : singlePageTree.layout.openDirectory documentation.root =
        .ok [Bytes.ofString "docs"] := by decide +kernel
    have held : singlePageTree.layout.node? loopLink.directory =
        some (.directory .unrestricted) := by decide +kernel
    obtain ⟨-, failure, after, failed, listing⟩ := stopped loopLink loopLayout _ gains
      (.entry opened held) (.inl ⟨.directory .unrestricted, by decide +kernel⟩)
    obtain ⟨error, rfl⟩ := listing (.inr (.inl (by decide +kernel)))
    exact ⟨error, after, failed⟩

/-- A subdirectory with a second path through a link, a chain of thirty-nine links to nothing, and a
file that is no text. -/
def chainedTree : FileTree where
  layout := {
    entries :=
      let docs := Bytes.ofString "docs"
      let chain := Bytes.ofString "chain"
      [([], .directory .unrestricted), ([docs], .directory .unrestricted),
        ([Bytes.ofString "tree", docs], .directory .unrestricted),
        ([Bytes.ofString "a", docs], .link (.ofString "tree")),
        ([Bytes.ofString "raw"], .file 0 .unrestricted),
        ([chain], .directory .unrestricted)] ++
      (List.range 39).map fun length =>
        ([List.replicate (length + 1) 97, chain], .link ⟨List.replicate (length + 2) 97⟩)
    workingDirectory := []
    distinct := by decide +kernel }
  contents := fun _ => [255]

def chainedLink : AddedLink :=
  ⟨[Bytes.ofString "tree", Bytes.ofString "docs"], Bytes.ofString "Q1.md",
    .ofString "../../chain/a"⟩

def rawLink : AddedLink :=
  ⟨[Bytes.ofString "tree", Bytes.ofString "docs"], Bytes.ofString "Q1.md", .ofString "../../raw"⟩

def chainedLayout : Layout := chainedTree.layout.withLinks [chainedLink] (by decide +kernel)

def rawLayout : Layout := chainedTree.layout.withLinks [rawLink] (by decide +kernel)

theorem gains_chainedLayout : chainedTree.layout.Gains [chainedLink] chainedLayout :=
  Layout.gains_withLinks (by decide +kernel) ⟨by decide +kernel, by decide +kernel⟩

theorem gains_rawLayout : chainedTree.layout.Gains [rawLink] rawLayout :=
  Layout.gains_withLinks (by decide +kernel) ⟨by decide +kernel, by decide +kernel⟩

theorem subdirectories_chainedTree {root : Path}
    (opened : chainedTree.layout.openDirectory root = .ok [Bytes.ofString "docs"])
    (opens : chainedTree.layout.openDirectory (root.join (Bytes.ofString "a")) =
      .ok rawLink.directory) :
    (Documentation.subdirectories ⟨root⟩ chainedTree.layout).value =
      .ok [root.join (Bytes.ofString "a"), root.join (Bytes.ofString "tree")] := by
  have held : chainedTree.layout.children [Bytes.ofString "docs"] =
      [(Bytes.ofString "a", .link (.ofString "tree")),
        (Bytes.ofString "tree", .directory .unrestricted)] := by cbv
  obtain ⟨access, found, -⟩ := Layout.openDirectory_eq_ok_iff.1 opens
  have elsewhere : [Bytes.ofString "docs"] ≠ rawLink.directory := by decide
  have findings : chainedTree.layout.findings root =
      [.entry (Bytes.ofString "a") .directory, .entry (Bytes.ofString "tree") .directory] := by
    rw [Layout.findings_of_openDirectory opened, held]
    simp [Layout.examine, Layout.examineLink, opens, found, elsewhere, Node.kind]
  rw [Documentation.subdirectories_eq_ok_iff, Layout.Lists, findings]
  simp [Finding.failure?, Finding.subdirectory?]

theorem load_chainedTree {path : Path}
    (opened : chainedTree.layout.openDirectory path = .ok rawLink.directory) :
    (Namespace.load chainedTree.layout path).value = .ok ⟨path, []⟩ := by
  have held : chainedTree.layout.children rawLink.directory = [] := by cbv
  rw [Namespace.load_eq_ok_iff, Layout.Lists, Layout.findings_of_openDirectory opened, held]
  simp

theorem load_rawLayout {path : Path}
    (opened : chainedTree.layout.openDirectory path = .ok rawLink.directory)
    (found : rawLayout.find .followed (path.join (Bytes.ofString "Q1.md")) =
      .ok ([Bytes.ofString "raw"], .file 0 .unrestricted)) :
    (Namespace.load rawLayout path).value = .ok ⟨path, ["Q1.md"]⟩ := by
  have held : rawLayout.children rawLink.directory =
      [(Bytes.ofString "Q1.md", .link (.ofString "../../raw"))] := by cbv
  have findings : rawLayout.findings path = [.entry (Bytes.ofString "Q1.md") .file] := by
    rw [Layout.findings_of_openDirectory (gains_rawLayout.openDirectory opened), held]
    simp [Layout.examine, Layout.examineLink, found, Node.kind]
  have page : Finding.page? (.entry (Bytes.ofString "Q1.md") .file) = some "Q1.md" := by cbv
  rw [Namespace.load_eq_ok_iff, Layout.Lists, findings]
  simp [Finding.failure?, page]

namespace Run

theorem exists_ok_chainedTree {root : Path}
    (opened : chainedTree.layout.openDirectory root = .ok [Bytes.ofString "docs"])
    (opensLink : chainedTree.layout.openDirectory (root.join (Bytes.ofString "a")) =
      .ok rawLink.directory)
    (opensTree : chainedTree.layout.openDirectory (root.join (Bytes.ofString "tree")) =
      .ok rawLink.directory) :
    ∃ report ended, (repairDocumentation .default (fun _ => []) ⟨root⟩).settle
      (.start chainedTree) = (.ok report, ended) := by
  have loaded : [root.join (Bytes.ofString "a"), root.join (Bytes.ofString "tree")].mapM
      (fun path => (Namespace.load chainedTree.layout path).value) =
        .ok [⟨root.join (Bytes.ofString "a"), []⟩, ⟨root.join (Bytes.ofString "tree"), []⟩] := by
    simp [load_chainedTree opensLink, load_chainedTree opensTree, bind, Except.bind, pure,
      Except.pure]
  have story : (Documentation.mk root).story .default chainedTree = _ :=
    Documentation.story_of_processed (subdirectories_chainedTree opened opensLink) loaded
      (.cons .nil (.cons .nil .nil))
  have told := tells_repairDocumentation (rfl : Config.default.parallel = false) (fun _ => [])
    ⟨root⟩
  obtain ⟨ended, settled, -⟩ := told.exists_settle (.start chainedTree)
  exact ⟨_, ended, settled.trans (congrArg (·, ended) (congrArg Story.outcome story))⟩

theorem exists_reading_rawLayout {root : Path}
    (opened : chainedTree.layout.openDirectory root = .ok [Bytes.ofString "docs"])
    (opens : chainedTree.layout.openDirectory (root.join (Bytes.ofString "a")) =
      .ok rawLink.directory)
    (found : rawLayout.find .followed
        ((root.join (Bytes.ofString "a")).join (Bytes.ofString "Q1.md")) =
      .ok ([Bytes.ofString "raw"], .file 0 .unrestricted)) :
    ∃ path ended, (repairDocumentation .default (fun _ => []) ⟨root⟩).settle
      (.start (chainedTree.withLayout rawLayout)) = (.error (.reading path .notText), ended) := by
  have elsewhere : rawLink.directory ≠ [Bytes.ofString "docs"] := by decide
  have listed : ((Documentation.mk root).subdirectories
      (chainedTree.withLayout rawLayout).layout).value = _ :=
    gains_rawLayout.subdirectories opened
      (fun link added here => absurd (List.mem_singleton.1 added ▸ here) elsewhere)
      (subdirectories_chainedTree opened opens)
  let visit : Visit := ⟨⟨root.join (Bytes.ofString "a"), ["Q1.md"]⟩, "Q1.md"⟩
  have undecodable : Bytes.text? [255] = none := by decide +kernel
  have unread : (chainedTree.withLayout rawLayout).readText visit.path = .error .notText := by
    simp [visit, Visit.path, Namespace.filePath, FileTree.readText, Layout.openToRead, found,
      FileTree.read, FileTree.withLayout, chainedTree, undecodable, Access.unrestricted, bind,
      Except.bind, pure, Except.pure, throw, throwThe, MonadExceptOf.throw]
  have fails : visit.Fails Config.default.writeMode (chainedTree.withLayout rawLayout)
      (.reading visit.path .notText) := .inl ⟨.notText, unread, rfl⟩
  have loaded : (Namespace.load (chainedTree.withLayout rawLayout).layout
      (root.join (Bytes.ofString "a"))).value = .ok visit.pages := load_rawLayout opens found
  have names : visit.pages.names = [] ++ visit.name :: [] := rfl
  have story : ((Documentation.mk root).story .default
      (chainedTree.withLayout rawLayout)).outcome = .error (.reading visit.path .notText) := by
    rw [Documentation.story, Documentation.storyOf_of_ok listed]
    simp only [subdirectoriesStory, subdirectoryStory_of_ok loaded,
      FileTree.Repaired.framed_of_fails names .nil fails, Story.andThen]
  have told := tells_repairDocumentation (rfl : Config.default.parallel = false) (fun _ => [])
    ⟨root⟩
  obtain ⟨ended, settled, -⟩ := told.exists_settle (.start (chainedTree.withLayout rawLayout))
  exact ⟨_, ended, settled.trans (congrArg (·, ended) story)⟩

end Run

def slashedRoot : Path :=
  ⟨Bytes.ofString "docs" ++ List.replicate 4083 Bytes.slash⟩

/-- A link that leads to nothing by the path of its directory can meet one link too many by another
path to it. One whose path is too long by the first can be met as a page by the other. -/
theorem Run.repairDocumentation_past_limits :
    let run (root : Path) (tree : FileTree) :=
      (repairDocumentation .default (fun _ => []) ⟨root⟩).settle (.start tree)
    ((∃ report ended, run (.ofString "docs") chainedTree = (.ok report, ended)) ∧
      chainedTree.layout.Gains [chainedLink] chainedLayout ∧
      chainedLayout.find .followed (.ofString "docs/tree/Q1.md") = .error .notFound ∧
      ∃ after, run (.ofString "docs") (chainedTree.withLayout chainedLayout) =
        (.error (.listing (.unreadable (.ofString "docs/a/Q1.md") .tooManyLinks)), after)) ∧
    (∃ report ended, run slashedRoot chainedTree = (.ok report, ended)) ∧
      chainedTree.layout.Gains [rawLink] rawLayout ∧
      (Documentation.mk slashedRoot).OwnPath chainedTree.layout
        (slashedRoot.join (Bytes.ofString "tree")) rawLink.directory ∧
      rawLayout.find .followed ((slashedRoot.join (Bytes.ofString "tree")).join rawLink.name) =
        .error .nameTooLong ∧
      ∃ path after, run slashedRoot (chainedTree.withLayout rawLayout) =
        (.error (.reading path .notText), after) := by
  intro run
  have opened : chainedTree.layout.openDirectory slashedRoot = .ok [Bytes.ofString "docs"] := by
    decide +kernel
  have opens : chainedTree.layout.openDirectory (slashedRoot.join (Bytes.ofString "a")) =
      .ok rawLink.directory := by decide +kernel
  refine ⟨⟨?_, gains_chainedLayout, by decide +kernel, ?_⟩, ?_, gains_rawLayout, ?_,
    by decide +kernel, ?_⟩
  · exact exists_ok_chainedTree (by decide +kernel) (by decide +kernel) (by decide +kernel)
  · have failed : ((repairDocumentation .default (fun _ => []) ⟨.ofString "docs"⟩).settle
        (.start (chainedTree.withLayout chainedLayout))).1 =
          .error (.listing (.unreadable (.ofString "docs/a/Q1.md") .tooManyLinks)) := by
      set_option maxRecDepth 10000 in cbv
    exact ⟨_, Prod.ext failed rfl⟩
  · exact exists_ok_chainedTree opened opens (by decide +kernel)
  · have held : chainedTree.layout.node? rawLink.directory = some (.directory .unrestricted) := by
      decide +kernel
    exact .entry opened held
  · exact exists_reading_rawLayout opened opens (by decide +kernel)

end BrokenLinks
