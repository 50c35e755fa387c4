import BrokenLinks.Proofs.Repair.Growth
import BrokenLinks.Proofs.Run.Interruption

/-! What a dry run foretells of a run that writes.

Files can have several names, so the two runs need not read the same texts. They do up to the first
page that has to be written; from there on a file only grows, and so it never becomes again what it
was at the start. -/

set_option autoImplicit false

namespace BrokenLinks

/-! ## Growing files -/

namespace Visit

variable {visit : Visit} {visits : List Visit} {bytes : Bytes} {text : String}

theorem rewrite_eq_or_longer (visit : Visit) (bytes : Bytes) :
    rewrite bytes visit = bytes ∨ bytes.length < (rewrite bytes visit).length := by
  cases decoded : bytes.text? with
  | none => simp [rewrite, decoded]
  | some text =>
    obtain rfl := Bytes.text?_eq_some_iff.1 decoded
    by_cases unchanged : (visit.repair text).changes = 0
    · exact .inl (rewrite_of_unchanged unchanged)
    · right
      rw [rewrite_ofString, Text.length_ofString, Text.length_ofString, String.toList_ofList]
      exact Repair.utf8Length_lt_of_changes_ne_zero unchanged

theorem changes_eq_zero_of_rewrite
    (same : rewrite (Bytes.ofString text) visit = Bytes.ofString text) :
    (visit.repair text).changes = 0 := by
  by_contra changed
  have longer := Repair.utf8Length_lt_of_changes_ne_zero changed
  have lengths := congrArg List.length same
  rw [rewrite_ofString, Text.length_ofString, Text.length_ofString, String.toList_ofList] at lengths
  exact absurd lengths longer.ne'

theorem length_le_foldl_rewrite (visits : List Visit) (bytes : Bytes) :
    bytes.length ≤ (visits.foldl rewrite bytes).length := by
  induction visits generalizing bytes with
  | nil => exact le_rfl
  | cons visit visits ih =>
    have first : bytes.length ≤ (rewrite bytes visit).length := by
      rcases rewrite_eq_or_longer visit bytes with same | longer
      · rw [same]
      · exact longer.le
    exact first.trans (ih _)

/-- No visit takes back what another has done. -/
theorem rewrite_eq_of_foldl_eq (same : visits.foldl rewrite bytes = bytes) :
    ∀ visit ∈ visits, rewrite bytes visit = bytes := by
  induction visits with
  | nil => simp
  | cons visit visits ih =>
    have grown : (rewrite bytes visit).length ≤ bytes.length := by
      have others := length_le_foldl_rewrite visits (rewrite bytes visit)
      rwa [← List.foldl_cons, same] at others
    have first := (rewrite_eq_or_longer visit bytes).resolve_right grown.not_gt
    rw [List.foldl_cons, first] at same
    exact List.forall_mem_cons.2 ⟨first, ih same⟩

end Visit

/-! ## Pages as they are at the start -/

namespace Visit

def Idle (tree : FileTree) (visit : Visit) : Prop :=
  ∃ text, tree.readText visit.path = .ok text ∧ (visit.repair text).changes = 0

def Pending (tree : FileTree) (visit : Visit) : Prop :=
  ∃ text, tree.readText visit.path = .ok text ∧ (visit.repair text).changes ≠ 0

end Visit

def Namespace.idleReport (pages : Namespace) : SubdirectoryReport :=
  (pages.visits.map (⟨·.name, 0⟩)).foldl .record (.new pages.path)

namespace FileTree

variable {tree ended : FileTree} {visit : Visit} {visits : List Visit} {mode : WriteMode}
  {namespaces : List Namespace} {reports : List SubdirectoryReport}

theorem replay_of_idle (idle : ∀ visit ∈ visits, visit.Idle tree) : tree.replay visits = tree := by
  induction visits with
  | nil => exact tree.replay_nil
  | cons visit visits ih =>
    obtain ⟨⟨text, found, unchanged⟩, others⟩ := List.forall_mem_cons.1 idle
    rw [replay_cons, Visit.replay_of_unchanged found unchanged, ih others]

theorem repaired_of_idle (mode : WriteMode) (idle : ∀ visit ∈ visits, visit.Idle tree) :
    tree.Repaired mode visits (visits.map (⟨·.name, 0⟩)) tree := by
  induction visits with
  | nil => exact .nil
  | cons visit visits ih =>
    obtain ⟨⟨text, found, unchanged⟩, others⟩ := List.forall_mem_cons.1 idle
    refine .cons ?_ (ih others)
    rw [Visit.repairPage_of_readText found]
    simp [Repair.needsWrite, Repair.isChanged, unchanged, Except.map]

theorem processed_of_idle (mode : WriteMode)
    (idle : ∀ visit ∈ namespaces.flatMap Namespace.visits, visit.Idle tree) :
    tree.Processed mode namespaces (namespaces.map Namespace.idleReport) tree := by
  induction namespaces with
  | nil => exact .nil
  | cons pages namespaces ih =>
    rw [List.flatMap_cons, List.forall_mem_append] at idle
    exact .cons (repaired_of_idle mode idle.1) (ih idle.2)

/-- A pending page leads to a file that is not the same in the end, wherever its visit stands. -/
theorem contents_replay_ne_of_pending (pending : visit.Pending tree) (member : visit ∈ visits) :
    ∃ file, tree.layout.file? visit.path = some file ∧
      (tree.replay visits).contents file ≠ tree.contents file := by
  obtain ⟨text, found, changed⟩ := pending
  obtain ⟨opened, opens, holds⟩ := readText_eq_ok_iff.1 found
  cases opened with
  | device =>
    -- A device reads as empty, where there is nothing to repair.
    obtain rfl : text = "" := Bytes.ofString_injective holds.symm
    refine absurd (Visit.changes_eq_zero_of_rewrite ?_) changed
    rw [Visit.rewrite_ofString, Visit.repair, String.toList_empty, Repair.text_ofText_nil]
  | file file =>
    have leads : tree.layout.file? visit.path = some file := Layout.file?_of_open (.inl opens)
    refine ⟨file, leads, fun same => changed ?_⟩
    have among : visit ∈ visits.filter (·.leadsTo tree.layout file) :=
      List.mem_filter.2 ⟨member, by simpa [Visit.leadsTo] using leads⟩
    have kept := Visit.rewrite_eq_of_foldl_eq same visit among
    rw [contents_of_readText found leads] at kept
    exact Visit.changes_eq_zero_of_rewrite kept

theorem exists_readText_replay {path : Path} {text : String} (found : tree.readText path = .ok text)
    (visits : List Visit) : ∃ text', (tree.replay visits).readText path = .ok text' := by
  -- What can be read is text, and remains text.
  obtain ⟨opened, opens, holds⟩ := readText_eq_ok_iff.1 found
  have rewritten (visits : List Visit) :
      ∃ text', visits.foldl Visit.rewrite (Bytes.ofString text) = Bytes.ofString text' := by
    induction visits using List.reverseRecOn with
    | nil => exact ⟨text, rfl⟩
    | append_singleton visits visit ih =>
      obtain ⟨text', same⟩ := ih
      exact ⟨_, by rw [List.foldl_append, same]; exact visit.rewrite_ofString text'⟩
  simp only [readText_eq_ok_iff, layout_replay]
  cases opened with
  | device => exact ⟨text, .device, opens, holds⟩
  | file file =>
    obtain ⟨text', same⟩ := rewritten (visits.filter (·.leadsTo tree.layout file))
    have holds' : tree.contents file = Bytes.ofString text := holds
    exact ⟨text', .file file, opens, by rw [← same, ← holds']; rfl⟩

/-! ## Dry runs -/

theorem Repaired.idle_or_pending {files : List FileReport}
    (repaired : tree.Repaired .dryRun visits files ended) :
    ∀ visit ∈ visits, visit.Idle tree ∨ visit.Pending tree := by
  induction repaired with
  | nil => simp
  | cons step _ ih =>
    obtain ⟨text, found, -, rfl⟩ := Visit.repairPage_eq_replayIn step
    refine List.forall_mem_cons.2 ⟨?_, ih⟩
    exact (Decidable.em _).imp (fun idle => ⟨text, found, idle⟩)
      fun changed => ⟨text, found, changed⟩

theorem Repaired.forall_idle_iff {files : List FileReport}
    (repaired : tree.Repaired .dryRun visits files ended) :
    (∀ visit ∈ visits, visit.Idle tree) ↔ ∀ file ∈ files, file.changes = 0 := by
  induction repaired with
  | nil => simp
  | cons step _ ih =>
    obtain ⟨text, found, rfl, rfl⟩ := Visit.repairPage_eq_replayIn step
    rw [List.forall_mem_cons, List.forall_mem_cons, ← ih]
    refine and_congr_left fun _ => ?_
    simp [Visit.Idle, found]

theorem Processed.filesChanged (processed : tree.Processed mode namespaces reports ended) :
    ∀ report ∈ reports, report.totals.filesChanged =
      report.files.toList.countP FileReport.isChanged := by
  induction processed with
  | nil => simp
  | cons repaired _ ih =>
    refine List.forall_mem_cons.2 ⟨?_, ih⟩
    rw [totals_foldl_record_new, files_foldl_record]
    simp [SubdirectoryReport.new, Totals.ofFiles]

theorem Processed.hasChanges_eq_false_iff
    (processed : tree.Processed mode namespaces reports ended) (root : Path) (dryRun : Bool) :
    (reports.foldl RunReport.push (.new root dryRun)).hasChanges = false ↔
      ∀ file ∈ reports.flatMap (·.files.toList), file.changes = 0 := by
  rw [RunReport.hasChanges, counter_foldl_push Totals.filesChanged fun _ _ => rfl,
    decide_eq_false_iff_not, Nat.not_lt, Nat.le_zero, Nat.add_eq_zero_iff, and_iff_right (by rfl),
    List.sum_eq_zero_iff_forall_eq_nat, List.forall_mem_map, List.forall_mem_flatMap]
  refine forall₂_congr fun report member => ?_
  rw [processed.filesChanged report member, List.countP_eq_zero]
  simp [FileReport.isChanged]

end FileTree

theorem foldl_push_with_dryRun (reports : List SubdirectoryReport) (report : RunReport)
    (dryRun : Bool) :
    { reports.foldl RunReport.push report with dryRun } =
      reports.foldl RunReport.push { report with dryRun } := by
  induction reports generalizing report with
  | nil => rfl
  | cons subdirectory reports ih => exact ih _

theorem exists_first {α : Type} {property : α → Prop} {items : List α}
    (found : ∃ item ∈ items, property item) :
    ∃ front item back, items = front ++ item :: back ∧ property item ∧
      ∀ other ∈ front, ¬ property other := by
  induction items with
  | nil => simp at found
  | cons item items ih =>
    by_cases holds : property item
    · exact ⟨[], item, items, rfl, holds, by simp⟩
    · obtain ⟨front, first, back, rfl, held, none⟩ := ih (by simpa [holds] using found)
      exact ⟨item :: front, first, back, rfl, held, List.forall_mem_cons.2 ⟨holds, none⟩⟩

/-- What the report of a dry run says of the run that writes: whether it leaves everything as it
is, or else changes a file or is refused to. -/
structure RunReport.Foretells (report : RunReport) (before : FileTree)
    (outcome : Except Failure RunReport) (after : FileTree) : Prop where
  unchanged : report.hasChanges = false →
    outcome = .ok { report with dryRun := false } ∧ after = before
  changed : report.hasChanges = true →
    (∃ path file, before.layout.file? path = some file ∧
      after.contents file ≠ before.contents file) ∨
    ∃ path cause, outcome = .error (.writing path cause)

namespace Documentation

variable {config : Config} {documentation : Documentation} {tree : FileTree} {report : RunReport}

/-- The namespaces of all pages that a run can come to, each of which is idle or pending. -/
structure Surveyed (documentation : Documentation) (tree : FileTree) (namespaces : List Namespace)
    (report : RunReport) : Prop where
  listed : ∃ paths, (documentation.subdirectories tree.layout).value = .ok paths ∧
    paths.mapM (fun path => (Namespace.load tree.layout path).value) = .ok namespaces
  idle_or_pending : ∀ visit ∈ namespaces.flatMap Namespace.visits,
    visit.Idle tree ∨ visit.Pending tree
  idle_iff : (∀ visit ∈ namespaces.flatMap Namespace.visits, visit.Idle tree) ↔
    report.hasChanges = false

theorem exists_surveyed (dry : config.writeMode = .dryRun)
    (succeeded : (documentation.story config tree).outcome = .ok report) :
    ∃ namespaces, documentation.Surveyed tree namespaces report := by
  obtain ⟨paths, namespaces, reports, ended, listed, loaded, processed⟩ :=
    exists_processed_of_story succeeded
  rw [story_of_processed listed loaded processed] at succeeded
  cases succeeded
  rw [dry] at processed
  refine ⟨namespaces, ⟨paths, listed, loaded⟩, processed.repaired.idle_or_pending, ?_⟩
  rw [processed.repaired.forall_idle_iff, processed.hasChanges_eq_false_iff]

namespace Surveyed

variable {namespaces earlier : List Namespace} {paths : List Path} {mode : WriteMode}
  {reports : List SubdirectoryReport} {pages : Namespace} {between : FileTree}

theorem exists_load (surveyed : documentation.Surveyed tree namespaces report)
    (listed : (documentation.subdirectories tree.layout).value = .ok paths) {path : Path}
    (member : path ∈ paths) :
    ∃ pages ∈ namespaces, (Namespace.load tree.layout path).value = .ok pages := by
  obtain ⟨paths', listed', all⟩ := surveyed.listed
  cases listed.symm.trans listed'
  rw [← (of_mapM_load all).1] at member
  obtain ⟨pages, among, same⟩ := List.mem_map.1 member
  exact ⟨pages, among, same ▸ (of_mapM_load all).2 pages among⟩

theorem mem_of_comesTo (surveyed : documentation.Surveyed tree namespaces report)
    (reached : documentation.ComesTo mode tree earlier reports pages.path between)
    (loaded : (Namespace.load tree.layout pages.path).value = .ok pages) :
    pages ∈ namespaces ∧ ∀ other ∈ earlier, other ∈ namespaces := by
  obtain ⟨names, -, listed, parts⟩ := reached.listed
  have among {other : Namespace} (member : other.path ∈ names.map documentation.root.join)
      (loadedOther : (Namespace.load tree.layout other.path).value = .ok other) :
      other ∈ namespaces := by
    obtain ⟨same, known, loadedSame⟩ := surveyed.exists_load listed member
    rw [loadedOther] at loadedSame
    cases loadedSame
    exact known
  refine ⟨among (parts.subset (by simp)) loaded, fun other member => ?_⟩
  have early : other.path ∈ earlier.map Namespace.path := List.mem_map_of_mem member
  exact among (parts.subset (List.mem_append_left _ early)) (reached.loaded other member)

theorem visits_of_comesTo (surveyed : documentation.Surveyed tree namespaces report)
    (reached : documentation.ComesTo mode tree earlier reports pages.path between)
    (loaded : (Namespace.load tree.layout pages.path).value = .ok pages) {done : List String}
    {name : String} {files : List FileReport} {after : FileTree}
    (reachedPage : pages.ComesTo mode between done name files after) :
    ⟨pages, name⟩ ∈ namespaces.flatMap Namespace.visits ∧
      ∀ visit ∈ earlier.flatMap Namespace.visits ++ done.map (⟨pages, ·⟩),
        visit ∈ namespaces.flatMap Namespace.visits := by
  obtain ⟨known, others⟩ := surveyed.mem_of_comesTo reached loaded
  have ofPage {name' : String} (member : name' ∈ done ++ [name]) :
      ⟨pages, name'⟩ ∈ namespaces.flatMap Namespace.visits :=
    List.mem_flatMap.2 ⟨pages, known, List.mem_map_of_mem (reachedPage.1.subset member)⟩
  refine ⟨ofPage (by simp), List.forall_mem_append.2 ⟨fun visit member => ?_, ?_⟩⟩
  · obtain ⟨other, early, visits⟩ := List.mem_flatMap.1 member
    exact List.mem_flatMap.2 ⟨other, others other early, visits⟩
  · exact List.forall_mem_map.2 fun name' member => ofPage (List.mem_append_left _ member)

theorem story_of_idle (surveyed : documentation.Surveyed tree namespaces report)
    (idle : report.hasChanges = false) (config : Config) :
    ∃ notices, documentation.story config tree =
      ⟨.ok ((namespaces.map Namespace.idleReport).foldl .push
        (.new documentation.root config.isDryRun)), tree, notices⟩ := by
  obtain ⟨paths, listed, loaded⟩ := surveyed.listed
  have processed := FileTree.processed_of_idle config.writeMode (surveyed.idle_iff.2 idle)
  exact ⟨_, story_of_processed listed loaded processed⟩

theorem exists_pending (surveyed : documentation.Surveyed tree namespaces report)
    (changes : report.hasChanges = true) :
    ∃ visit ∈ namespaces.flatMap Namespace.visits, visit.Pending tree := by
  by_contra none
  push Not at none
  have idle := surveyed.idle_iff.1 fun visit member =>
    (surveyed.idle_or_pending visit member).resolve_right (none visit member)
  simp [changes] at idle

theorem exists_readText (surveyed : documentation.Surveyed tree namespaces report) {visit : Visit}
    (member : visit ∈ namespaces.flatMap Namespace.visits) :
    ∃ text, tree.readText visit.path = .ok text := by
  rcases surveyed.idle_or_pending visit member with ⟨text, found, -⟩ | ⟨text, found, -⟩
  all_goals exact ⟨text, found⟩

theorem exists_change (surveyed : documentation.Surveyed tree namespaces report)
    (changes : report.hasChanges = true) {config : Config} (applied : config.writeMode = .apply)
    {report' : RunReport} (succeeded : (documentation.story config tree).outcome = .ok report') :
    ∃ path file, tree.layout.file? path = some file ∧
      (documentation.story config tree).tree.contents file ≠ tree.contents file := by
  obtain ⟨paths, listed, loaded⟩ := surveyed.listed
  obtain ⟨paths', namespaces', reports, ended, listed', loaded', processed⟩ :=
    exists_processed_of_story succeeded
  cases listed.symm.trans listed'
  cases loaded.symm.trans loaded'
  have replayed : ended = tree.replay (namespaces.flatMap Namespace.visits) := by
    rw [applied] at processed
    exact processed.repaired.eq_replayIn
  obtain ⟨visit, member, pending⟩ := surveyed.exists_pending changes
  obtain ⟨file, leads, differs⟩ := FileTree.contents_replay_ne_of_pending pending member
  refine ⟨visit.path, file, leads, ?_⟩
  rw [story_of_processed listed loaded processed, replayed]
  exact differs

theorem writing_of_error (surveyed : documentation.Surveyed tree namespaces report)
    {config : Config} (applied : config.writeMode = .apply) {failure : Failure}
    (failed : (documentation.story config tree).outcome = .error failure) :
    ∃ path cause, failure = .writing path cause := by
  -- Everything can be listed and read, so a run fails only where it may not write.
  obtain ⟨paths, listed, -⟩ := surveyed.listed
  have interrupted := story_error listed failed
  generalize (documentation.story config tree).notices = notices at interrupted
  generalize (documentation.story config tree).tree = after at interrupted
  cases interrupted with
  | @listing _ _ path _ reached unlisted _ =>
    obtain ⟨names, -, listed', parts⟩ := reached.listed
    have member : path ∈ names.map documentation.root.join := parts.subset (by simp)
    obtain ⟨pages, -, loaded⟩ := surveyed.exists_load listed' member
    cases unlisted.symm.trans loaded
  | page reached loaded _ reachedPage fails replayed =>
    obtain ⟨known, -⟩ := surveyed.visits_of_comesTo reached loaded reachedPage
    obtain ⟨text, found⟩ := surveyed.exists_readText known
    rcases fails with ⟨cause, unread, -⟩ | ⟨-, cause, -, -, -, refused⟩
    · -- The page could be read at the start, and so it can be read when its turn comes.
      obtain ⟨text', found'⟩ := FileTree.exists_readText_replay found _
      rw [replayed, applied] at unread
      cases found'.symm.trans unread
    · exact ⟨_, cause, refused⟩

end Surveyed

/-- A run that writes repeats a dry run that has found no changes; after one that has found some, it
changes a file for good or is refused to. -/
theorem foretells_of_story {applied : Config} (dry : config.writeMode = .dryRun)
    (succeeded : (documentation.story config tree).outcome = .ok report)
    (writes : applied.writeMode = .apply) :
    report.Foretells tree (documentation.story applied tree).outcome
      (documentation.story applied tree).tree := by
  obtain ⟨namespaces, surveyed⟩ := exists_surveyed dry succeeded
  refine ⟨fun idle => ?_, fun changes => ?_⟩
  · obtain ⟨notices, told⟩ := surveyed.story_of_idle idle config
    obtain ⟨notices', told'⟩ := surveyed.story_of_idle idle applied
    rw [told] at succeeded
    cases succeeded
    rw [told', foldl_push_with_dryRun, Config.isDryRun, writes]
    exact ⟨rfl, rfl⟩
  · cases outcome : (documentation.story applied tree).outcome with
    | ok report' => exact .inl (surveyed.exists_change changes writes outcome)
    | error failure =>
      obtain ⟨path, cause, same⟩ := surveyed.writing_of_error writes outcome
      exact .inr ⟨path, cause, congrArg Except.error same⟩

/-! ## Attempts to write -/

/-- A run in turn comes to a page that it reads and has to write, whether or not it can. -/
def AttemptsWrite (documentation : Documentation) (mode : WriteMode) (before : FileTree) : Prop :=
  ∃ namespaces reports pages between done name files reached repair,
    documentation.ComesTo mode before namespaces reports pages.path between ∧
    (Namespace.load before.layout pages.path).value = .ok pages ∧
    pages.ComesTo mode between done name files reached ∧
    pages.draft reached name = .ok repair ∧ repair.needsWrite mode = true

theorem Surveyed.comesTo_of_idle {namespaces earlier later : List Namespace} {pages : Namespace}
    (surveyed : documentation.Surveyed tree namespaces report)
    (parts : namespaces = earlier ++ pages :: later)
    (idle : ∀ visit ∈ earlier.flatMap Namespace.visits, visit.Idle tree) (mode : WriteMode) :
    (Namespace.load tree.layout pages.path).value = .ok pages ∧
      documentation.ComesTo mode tree earlier (earlier.map Namespace.idleReport) pages.path
        tree := by
  obtain ⟨paths, listed, all⟩ := surveyed.listed
  obtain ⟨rfl, loaded⟩ := of_mapM_load all
  obtain ⟨-, names, shown, named⟩ := subdirectories_eq_ok_iff_showsDirectories.1 listed
  refine ⟨loaded pages (by simp [parts]), ⟨names, shown.ascend, named ▸ listed, ?_⟩,
    fun other member => loaded other (by simp [parts, member]),
    FileTree.processed_of_idle mode idle⟩
  rw [← named, parts]
  exact ⟨later.map Namespace.path, by simp⟩

theorem Surveyed.attemptsWrite_of_pending {namespaces : List Namespace}
    (surveyed : documentation.Surveyed tree namespaces report)
    (pending : ∃ visit ∈ namespaces.flatMap Namespace.visits, visit.Pending tree) :
    documentation.AttemptsWrite .apply tree := by
  -- The first page with a change, in the first namespace that has one.
  obtain ⟨earlier, pages, later, parts, ⟨visit, member, pending⟩, none⟩ :
      ∃ earlier pages later, namespaces = earlier ++ pages :: later ∧
        (∃ visit ∈ pages.visits, visit.Pending tree) ∧
        ∀ other ∈ earlier, ¬ ∃ visit ∈ other.visits, visit.Pending tree := by
    obtain ⟨visit, member, pending⟩ := pending
    obtain ⟨pages, among, own⟩ := List.mem_flatMap.1 member
    exact exists_first ⟨pages, among, visit, own, pending⟩
  obtain ⟨done, name, rest, names, ⟨text, found, changed⟩, nonePage⟩ :
      ∃ done name rest, pages.names = done ++ name :: rest ∧
        Visit.Pending tree ⟨pages, name⟩ ∧ ∀ other ∈ done, ¬ Visit.Pending tree ⟨pages, other⟩ := by
    obtain ⟨name, among, rfl⟩ := List.mem_map.1 member
    exact exists_first ⟨name, among, pending⟩
  have idle (visit : Visit) (member : visit ∈ namespaces.flatMap Namespace.visits) :
      ¬ visit.Pending tree → visit.Idle tree :=
    (surveyed.idle_or_pending visit member).resolve_right
  have idleEarlier : ∀ visit ∈ earlier.flatMap Namespace.visits, visit.Idle tree := by
    intro visit member
    obtain ⟨other, among, own⟩ := List.mem_flatMap.1 member
    exact idle visit (by simp [parts, member]) fun pending => none other among ⟨visit, own, pending⟩
  have idleDone : ∀ visit ∈ done.map (⟨pages, ·⟩ : String → Visit), visit.Idle tree := by
    refine List.forall_mem_map.2 fun other member => idle _ ?_ (nonePage other member)
    exact List.mem_flatMap.2 ⟨pages, by simp [parts],
      List.mem_map_of_mem (names ▸ List.mem_append_left _ member)⟩
  obtain ⟨loaded, comesTo⟩ := surveyed.comesTo_of_idle parts idleEarlier .apply
  refine ⟨earlier, _, pages, tree, done, name, _, tree, Visit.repair ⟨pages, name⟩ text, comesTo,
    loaded, ⟨⟨rest, by simp [names]⟩, FileTree.repaired_of_idle .apply idleDone⟩, ?_, ?_⟩
  · have found' : tree.readText (pages.filePath name) = .ok text := found
    rw [Namespace.draft, found']
    rfl
  · simpa [Repair.needsWrite, Repair.isChanged, Nat.pos_iff_ne_zero] using changed

/-- A run that writes attempts to do so if and only if a dry run has found changes. -/
theorem attemptsWrite_iff (dry : config.writeMode = .dryRun)
    (succeeded : (documentation.story config tree).outcome = .ok report) :
    documentation.AttemptsWrite .apply tree ↔ report.hasChanges = true := by
  obtain ⟨namespaces, surveyed⟩ := exists_surveyed dry succeeded
  constructor
  · rintro ⟨earlier, reports, pages, between, done, name, files, reached, repair, comesTo, loaded,
      comesToPage, drafted, needed⟩
    by_contra unchanged
    have idle := surveyed.idle_iff.2 (by simpa using unchanged)
    obtain ⟨known, before⟩ := surveyed.visits_of_comesTo comesTo loaded comesToPage
    -- Nothing has been written before, so the page is as it was at the start.
    have same : reached = tree := by
      rw [(comesTo.processed.repaired.append comesToPage.2).eq_replayIn]
      exact FileTree.replay_of_idle fun visit member => idle visit (before visit member)
    obtain ⟨text, found, idleRepair⟩ := idle _ known
    have found' : tree.readText (pages.filePath name) = .ok text := found
    rw [same, Namespace.draft, found'] at drafted
    cases drafted
    have changed : 0 < (Repair.ofText pages.contains text.toList).changes := by
      simpa [Repair.needsWrite, Repair.isChanged] using needed
    exact changed.ne' idleRepair
  · intro changes
    exact surveyed.attemptsWrite_of_pending (surveyed.exists_pending changes)

end Documentation

theorem Run.foretells_of_dryRun {config : Config} (inTurn : config.parallel = false)
    (schedules : Path → Schedule) {documentation : Documentation} {state : RunState}
    {report : RunReport}
    (dry : ((repairDocumentation { config with writeMode := .dryRun } schedules
      documentation).settle state).1 = .ok report) :
    let applied := (repairDocumentation { config with writeMode := .apply } schedules
      documentation).settle state
    report.Foretells state.tree applied.1 applied.2.tree := by
  intro applied
  have toldDry := @tells_repairDocumentation { config with writeMode := .dryRun } inTurn schedules
    documentation
  have told := @tells_repairDocumentation { config with writeMode := .apply } inTurn schedules
    documentation
  have succeeded := (toldDry.of_settle (Prod.ext dry rfl)).1
  obtain ⟨outcome, left⟩ := told.of_settle (show _ = (applied.1, applied.2) from rfl)
  rw [← outcome, ← left]
  exact Documentation.foretells_of_story rfl succeeded rfl

end BrokenLinks
