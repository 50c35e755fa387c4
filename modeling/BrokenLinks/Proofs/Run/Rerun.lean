import BrokenLinks.Proofs.Repair.SecondPass
import BrokenLinks.Proofs.Run.Sequence

/-! What a second run finds to do after a first one.

A visit never makes a page unreadable, so a second run reads every page that the first has read.
It has nothing to do exactly when each link of each page, as the first run leaves it, is led to its
place, and that holds of every tree in which no visit reads a link that hides another. -/

set_option autoImplicit false

namespace BrokenLinks

namespace FileTree

variable {tree : FileTree} {visit : Visit} {text : String}

def Holds (property : Visit → String → Prop) (tree : FileTree) (visits : List Visit) : Prop :=
  ∀ visit ∈ visits, ∃ text, tree.readText visit.path = .ok text ∧ property visit text

inductive Reads : FileTree → List Visit → String → Prop where
  | now {tree : FileTree} {visit : Visit} {visits : List Visit} {text : String}
      (read : tree.readText visit.path = .ok text) : Reads tree (visit :: visits) text
  | later {tree : FileTree} {visit : Visit} {visits : List Visit} {text : String}
      (others : Reads (tree.replay [visit]) visits text) : Reads tree (visit :: visits) text

/-- What a repair establishes of a page, and keeps of the other pages of the same text, holds when
all visits have been made. -/
theorem Visited.holds_append {property : Visit → String → Prop} {visits done : List Visit}
    {files : List FileReport} (visited : tree.Visited visits files)
    (fresh : ∀ (visit : Visit) text, tree.Reads visits text →
      property visit (String.ofList (visit.repair text).text))
    (kept : ∀ (visit other : Visit) text, tree.Reads visits text → property other text →
      property other (String.ofList (visit.repair text).text))
    (before : Holds property tree done) : Holds property (tree.replay visits) (done ++ visits) := by
  induction visited generalizing done with
  | nil => simpa using before
  | @cons tree visit text visits files read others ih =>
    -- The invariant: all pages visited so far, this one included, have the property.
    have after : Holds property (tree.replay [visit]) (done ++ [visit]) := by
      intro other member
      rcases List.mem_append.1 member with earlier | now
      · obtain ⟨text', found, established⟩ := before other earlier
        rcases readText_replay read found with same | ⟨rfl, repaired⟩
        · exact ⟨text', same, established⟩
        · exact ⟨_, repaired, kept visit other text' (.now read) established⟩
      · rw [List.mem_singleton.1 now]
        exact ⟨_, readText_replay_self read, fresh visit text (.now read)⟩
    have holds := ih (fun visit text reads => fresh visit text (.later reads))
      (fun visit other text reads => kept visit other text (.later reads)) after
    rwa [List.append_assoc, ← replay_cons] at holds

theorem Visited.holds {property : Visit → String → Prop} {visits : List Visit}
    {files : List FileReport} (visited : tree.Visited visits files)
    (fresh : ∀ (visit : Visit) text, tree.Reads visits text →
      property visit (String.ofList (visit.repair text).text))
    (kept : ∀ (visit other : Visit) text, tree.Reads visits text → property other text →
      property other (String.ofList (visit.repair text).text)) :
    Holds property (tree.replay visits) visits :=
  visited.holds_append fresh kept (fun _ member => absurd member List.not_mem_nil)

end FileTree

namespace Visit

variable {visit : Visit} {text : String}

/-- Every link of the text is led to its place on the pages of the visit. -/
def Sound (visit : Visit) (text : String) : Prop :=
  (Document.ofText text.toList).Led (visit.pages.contains · = true)

def Spelled (_ : Visit) (text : String) : Prop :=
  ¬ Substitution.placeholderLink.pattern <:+: text.toList ∧
    ¬ Substitution.placeholderTarget.pattern <:+: text.toList

def Unchanged (visit : Visit) (text : String) : Prop :=
  (visit.repair text).changes = 0

theorem unchanged_iff : visit.Unchanged text ↔ visit.Sound text ∧ visit.Spelled text :=
  Repair.changes_eq_zero_iff

theorem spelled_repair (visit other : Visit) (text : String) :
    other.Spelled (String.ofList (visit.repair text).text) := by
  rw [Spelled, String.toList_ofList, repair, Repair.text_ofText]
  exact Substitution.not_infix_placeholders _

theorem sound_repair (visit : Visit)
    (plain : ∀ link ∈ (Document.ofText text.toList).links, ¬ link.Hides) :
    visit.Sound (String.ofList (visit.repair text).text) ∧
      ∀ other : Visit, other.Sound text → other.Sound (String.ofList (visit.repair text).text) := by
  simp only [Sound, String.toList_ofList]
  have led : (Document.ofText (visit.repair text).text).Led _ := Repair.led_text_ofText plain
  refine ⟨fun link member => (led link member).imp_right And.left,
    fun other sound link member => ?_⟩
  refine (led link member).imp_right ?_
  rintro ⟨-, link', inText, inside, same⟩
  -- The link has been kept under the name of a link that was there before, external or not.
  rcases sound link' inText with external | found
  · simp [inside] at external
  · exact same ▸ found

end Visit

namespace FileTree

variable {tree : FileTree}

theorem Visited.holds_unchanged {visits : List Visit} {files : List FileReport}
    (visited : tree.Visited visits files) (idle : ∀ file ∈ files, file.changes = 0) :
    tree.Holds Visit.Unchanged visits ∧ tree.replay visits = tree := by
  induction visited with
  | nil => exact ⟨by simp [Holds], rfl⟩
  | @cons tree visit text visits files read others ih =>
    obtain ⟨unchanged, idleOthers⟩ := List.forall_mem_cons.1 idle
    -- The visit leaves the tree as it is, so those after it start from the same one.
    have same := Visit.replay_of_unchanged read unchanged
    obtain ⟨holds, left⟩ := ih idleOthers
    rw [same] at holds left
    exact ⟨List.forall_mem_cons.2 ⟨⟨text, read, unchanged⟩, holds⟩, by
      rw [replay_cons, same, left]⟩

end FileTree

/-! ## A run with nothing to do -/

def Story.Idle {α : Type} (totals : α → Totals) (before : Totals) (tree : FileTree)
    (story : Story α) : Prop :=
  ∃ report, story.outcome = .ok report ∧ story.tree = tree ∧
    (totals report).filesChanged = before.filesChanged ∧
    (totals report).linksChanged = before.linksChanged

variable {config : Config} {tree : FileTree}

theorem pageStory_idle {visit : Visit} {text : String} (mode : WriteMode)
    (found : tree.readText visit.path = .ok text) (unchanged : visit.Unchanged text) :
    visit.pages.pageStory mode visit.name tree = .quiet (.ok ⟨visit.name, 0⟩) tree := by
  have same : (visit.repair text).changes = 0 := unchanged
  have done : visit.pages.repairPage mode tree visit.name = .ok (⟨visit.name, 0⟩, tree) := by
    refine Visit.repairPage_eq_ok_iff.2 ⟨text, found, by rw [same], ?_⟩
    simp [Repair.needsWrite, Repair.isChanged, same]
  rw [Namespace.pageStory, done]

theorem pagesStory_idle (config : Config) {pages : Namespace} {names : List String}
    (report : SubdirectoryReport)
    (holds : tree.Holds Visit.Unchanged (names.map (⟨pages, ·⟩))) :
    (pages.pagesStory config names report tree).Idle SubdirectoryReport.totals report.totals
      tree := by
  induction names generalizing report with
  | nil => exact ⟨report, rfl, rfl, rfl, rfl⟩
  | cons name names ih =>
    rw [List.map_cons] at holds
    obtain ⟨⟨text, found, unchanged⟩, others⟩ := List.forall_mem_cons.1 holds
    obtain ⟨report', succeeded, left, files, links⟩ := ih (report.record ⟨name, 0⟩) others
    rw [Namespace.pagesStory, pageStory_idle config.writeMode found unchanged,
      Story.quiet_ok_andThen]
    exact ⟨report', succeeded, left, files, links⟩

theorem subdirectoryStory_idle (config : Config) {path : Path} {pages : Namespace}
    (loaded : (Namespace.load tree.layout path).value = .ok pages)
    (holds : tree.Holds Visit.Unchanged pages.visits) :
    (subdirectoryStory (Namespace.storyInTurn config) path tree).Idle SubdirectoryReport.totals
      .zero tree := by
  obtain ⟨report, succeeded, left, files, links⟩ :=
    pagesStory_idle config (.new pages.path) holds
  rw [subdirectoryStory_of_ok loaded, Namespace.framed, Namespace.storyInTurn,
    Story.andThen_of_ok succeeded]
  exact ⟨report, rfl, left, files, links⟩

theorem subdirectoriesStory_idle {paths : List Path} {namespaces : List Namespace}
    (report : RunReport)
    (loaded : paths.mapM (fun path => (Namespace.load tree.layout path).value) = .ok namespaces)
    (holds : tree.Holds Visit.Unchanged (namespaces.flatMap Namespace.visits)) :
    (subdirectoriesStory (subdirectoryStory (Namespace.storyInTurn config)) paths report tree).Idle
      RunReport.totals report.totals tree := by
  induction paths generalizing namespaces report with
  | nil => exact ⟨report, rfl, rfl, rfl, rfl⟩
  | cons path paths ih =>
    obtain ⟨pages, others, first, rest, rfl⟩ := exists_of_mapM_cons loaded
    have inPages : tree.Holds Visit.Unchanged pages.visits := fun visit member =>
      holds visit (by simp [member])
    have inOthers : tree.Holds Visit.Unchanged (others.flatMap Namespace.visits) :=
      fun visit member => holds visit (List.mem_append_right _ member)
    obtain ⟨subdirectory, succeeded, left, files, links⟩ :=
      subdirectoryStory_idle config first inPages
    obtain ⟨report', succeeded', left', files', links'⟩ :=
      ih (report.push subdirectory) rest inOthers
    rw [subdirectoriesStory, Story.andThen_of_ok succeeded, left]
    refine ⟨report', succeeded', left', files'.trans ?_, links'.trans ?_⟩
    · simp [RunReport.push, Totals.add, files, Totals.zero]
    · simp [RunReport.push, Totals.add, links, Totals.zero]

theorem Documentation.story_idle (config : Config) {documentation : Documentation}
    {namespaces : List Namespace}
    (listed : documentation.namespaces tree.layout = .ok namespaces)
    (holds : tree.Holds Visit.Unchanged (namespaces.flatMap Namespace.visits)) :
    (documentation.story config tree).Idle RunReport.totals .zero tree := by
  unfold Documentation.namespaces at listed
  cases found : (documentation.subdirectories tree.layout).value with
  | error error => simp [found, bind, Except.bind] at listed
  | ok paths =>
    simp only [found, bind, Except.bind] at listed
    rw [story, storyOf_of_ok found]
    exact subdirectoriesStory_idle (.new documentation.root config.isDryRun) listed holds

namespace Documentation.Completed

variable {documentation : Documentation} {before after : FileTree}
  {namespaces : List Namespace} {report : RunReport}

theorem spelled (completed : documentation.Completed before after namespaces report) :
    after.Holds Visit.Spelled (namespaces.flatMap Namespace.visits) := by
  obtain ⟨reports, documented, -⟩ := completed.documented
  obtain ⟨files, visited, -⟩ := documented.visited
  rw [completed.replayed]
  exact visited.holds (fun visit text _ => Visit.spelled_repair visit visit text)
    (fun visit other text _ _ => Visit.spelled_repair visit other text)

/-- Every page is left sound if no visit has read a link that hides another. -/
theorem sound (completed : documentation.Completed before after namespaces report)
    (plain : ∀ text, before.Reads (namespaces.flatMap Namespace.visits) text →
      ∀ link ∈ (Document.ofText text.toList).links, ¬ link.Hides) :
    after.Holds Visit.Sound (namespaces.flatMap Namespace.visits) := by
  obtain ⟨reports, documented, -⟩ := completed.documented
  obtain ⟨files, visited, -⟩ := documented.visited
  rw [completed.replayed]
  exact visited.holds (fun visit text reads => (visit.sound_repair (plain text reads)).1)
    (fun visit other text reads => (visit.sound_repair (plain text reads)).2 other)

theorem unchanged (completed : documentation.Completed before after namespaces report)
    (idle : report.totals.linksChanged = 0) :
    before.Holds Visit.Unchanged (namespaces.flatMap Namespace.visits) := by
  obtain ⟨reports, documented, rfl⟩ := completed.documented
  obtain ⟨files, visited, counted⟩ := documented.visited
  rw [counter_foldl_push Totals.linksChanged fun _ _ => rfl, Nat.add_eq_zero_iff, ← counted,
    List.sum_eq_zero_iff_forall_eq_nat] at idle
  exact (visited.holds_unchanged (by simpa using idle.2)).1

end Documentation.Completed

def Run.IdleFrom (config : Config) (schedules : Path → Schedule) (documentation : Documentation)
    (tree : FileTree) : Prop :=
  ∃ report ended,
    (repairDocumentation config schedules documentation).settle (.start tree) =
      (.ok report, ended) ∧
    report.totals.linksChanged = 0 ∧ report.totals.filesChanged = 0 ∧ ended.tree = tree

theorem Documentation.Completed.idleFrom_iff {documentation : Documentation}
    {before after : FileTree} {namespaces : List Namespace} {report : RunReport}
    (completed : documentation.Completed before after namespaces report)
    (applied : config.writeMode = .apply) (inTurn : config.parallel = false)
    (schedules : Path → Schedule) :
    Run.IdleFrom config schedules documentation after ↔
      after.Holds Visit.Sound (namespaces.flatMap Namespace.visits) := by
  have told := Run.tells_repairDocumentation inTurn schedules documentation
  have listed : documentation.namespaces after.layout = .ok namespaces := by
    rw [completed.layout, completed.listed]
  constructor
  · rintro ⟨report', ended, done, idle, -, -⟩
    obtain ⟨succeeded, -⟩ := told.of_settle done
    obtain ⟨namespaces', completed'⟩ := Documentation.story_ok applied succeeded
    -- The second run makes the same visits, since the first has left the layout alone.
    cases listed.symm.trans completed'.listed
    intro visit member
    obtain ⟨text, found, unchanged⟩ := completed'.unchanged idle visit member
    exact ⟨text, found, (Visit.unchanged_iff.1 unchanged).1⟩
  · intro holds
    have unchanged : after.Holds Visit.Unchanged (namespaces.flatMap Namespace.visits) := by
      intro visit member
      obtain ⟨text, found, sound⟩ := holds visit member
      obtain ⟨text', found', spelled⟩ := completed.spelled visit member
      cases found.symm.trans found'
      exact ⟨text, found, Visit.unchanged_iff.2 ⟨sound, spelled⟩⟩
    obtain ⟨report', succeeded, left, files, links⟩ :=
      Documentation.story_idle config listed unchanged
    obtain ⟨log, settled⟩ := told (.start after)
    have same : (RunState.start after).tree = after := rfl
    rw [same, succeeded, left] at settled
    exact ⟨report', _, settled, links, files, rfl⟩

/-- A second run has nothing to do exactly when the first has left every page sound, and it has
left them so if no visit has read a link that hides another. -/
theorem Run.idle_again_iff (applied : config.writeMode = .apply) (inTurn : config.parallel = false)
    {schedules : Path → Schedule} {documentation : Documentation} {state ended : RunState}
    {report : RunReport}
    (done : (repairDocumentation config schedules documentation).settle state =
      (.ok report, ended)) :
    ∃ namespaces, documentation.Completed state.tree ended.tree namespaces report ∧
      (IdleFrom config schedules documentation ended.tree ↔
        ended.tree.Holds Visit.Sound (namespaces.flatMap Namespace.visits)) ∧
      ((∀ text, state.tree.Reads (namespaces.flatMap Namespace.visits) text →
          ∀ link ∈ (Document.ofText text.toList).links, ¬ link.Hides) →
        IdleFrom config schedules documentation ended.tree) := by
  have told := tells_repairDocumentation inTurn schedules documentation
  obtain ⟨succeeded, left⟩ := told.of_settle done
  obtain ⟨namespaces, completed⟩ := Documentation.story_ok applied succeeded
  rw [left] at completed
  have idle := completed.idleFrom_iff applied inTurn schedules
  exact ⟨namespaces, completed, idle, fun plain => idle.2 (completed.sound plain)⟩

theorem Run.idle_again_iff_aliased :
    let documentation : Documentation := ⟨.ofString "docs"⟩
    ∃ report ended,
      (repairDocumentation .default (fun _ => []) documentation).settle (.start aliasedTree) =
        (.ok report, ended) ∧
      ∃ namespaces, documentation.Completed aliasedTree ended.tree namespaces report ∧
        (IdleFrom .default (fun _ => []) documentation ended.tree ↔
          ended.tree.Holds Visit.Sound (namespaces.flatMap Namespace.visits)) := by
  obtain ⟨report, ended, done⟩ := exists_ok_aliasedTree
  obtain ⟨namespaces, completed, same, -⟩ := idle_again_iff rfl rfl done
  exact ⟨report, ended, done, namespaces, completed, same⟩

def hidingTree : FileTree where
  layout := {
    entries :=
      let docs := Bytes.ofString "docs"
      let pages := Bytes.ofString "tree"
      [([], .directory .unrestricted), ([docs], .directory .unrestricted),
        ([pages, docs], .directory .unrestricted),
        ([Bytes.ofString "Q1.md", pages, docs], .file 0 .unrestricted)]
    workingDirectory := []
    distinct := by decide }
  contents := fun _ => Bytes.ofString "[x](y.md) [foo.md) bar](http://q[z](w.md)"

theorem Run.not_always_idle_again :
    ¬ ∀ (tree : FileTree) (root : Path) (report : RunReport) (ended : RunState),
      (repairDocumentation (.new root) (fun _ => []) ⟨root⟩).settle (.start tree) =
        (.ok report, ended) →
      IdleFrom (.new root) (fun _ => []) ⟨root⟩ ended.tree := by
  intro always
  have succeeded : (Documentation.story (.new (.ofString "docs")) ⟨.ofString "docs"⟩
      hidingTree).outcome.isOk = true := by cbv
  have listed : Documentation.namespaces ⟨.ofString "docs"⟩ hidingTree.layout =
      .ok [⟨.ofString "docs/tree", ["Q1.md"]⟩] := by cbv
  have told : (repairDocumentation (.new (.ofString "docs")) _ _).Tells _ :=
    tells_repairDocumentation rfl (fun _ => []) ⟨.ofString "docs"⟩
  obtain ⟨log, settled⟩ := told (.start hidingTree)
  cases outcome : (Documentation.story (.new (.ofString "docs")) ⟨.ofString "docs"⟩
      hidingTree).outcome with
  | error failure => simp [outcome, Except.isOk, Except.toBool] at succeeded
  | ok report =>
    have idle := always hidingTree _ report _ (by rw [settled]; exact Prod.ext outcome rfl)
    obtain ⟨namespaces, completed⟩ := Documentation.story_ok rfl outcome
    cases listed.symm.trans completed.listed
    -- The first run has led the first link to Wikidata, and brought the hidden one to light.
    have holds := (completed.idleFrom_iff rfl rfl _).1 idle
    obtain ⟨text, found, sound⟩ := holds ⟨⟨.ofString "docs/tree", ["Q1.md"]⟩, "Q1.md"⟩
      (by simp [Namespace.visits])
    rw [completed.replayed] at found
    have left : (hidingTree.replay ([⟨.ofString "docs/tree", ["Q1.md"]⟩].flatMap
        Namespace.visits)).contents 0 = Bytes.ofString
          "[x](https://www.wikidata.org/wiki/y) [foo.md) bar](http://q[z](w.md)" := by
      decide +kernel
    have same := FileTree.contents_of_readText found (show _ = some 0 by decide +kernel)
    cases Bytes.ofString_injective (same.symm.trans left)
    revert sound
    simp only [Visit.Sound, Document.Led, Link.Led]
    decide +kernel

end BrokenLinks
