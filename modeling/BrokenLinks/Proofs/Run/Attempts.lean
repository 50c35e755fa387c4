import BrokenLinks.Proofs.Run.Forecast

/-! When a run attempts to write.

The step that writes a page is guarded. That a run has come to it shows in what the run leaves: in
the log if the page has been written, and in the failure if it could not be. -/

set_option autoImplicit false

namespace BrokenLinks

/-! ## Records -/

def Record.IsWritten (record : Record) : Prop :=
  ∃ (pages : Namespace) (name : String) (repair : Repair), record = pages.writtenRecord name repair

theorem Record.IsWritten.level_eq {record : Record} (written : record.IsWritten) :
    record.level = .info := by
  obtain ⟨pages, name, repair, rfl⟩ := written
  rfl

theorem Finding.level_danglingRecord? {finding : Finding} {record : Record}
    (made : finding.danglingRecord? = some record) : record.level = .warn := by
  obtain ⟨link, -, rfl⟩ := Option.map_eq_some_iff.1 made
  rfl

theorem Finding.level_record? {finding : Finding} {directory : Path} {record : Record}
    (made : finding.record? directory = some record) : record.level = .warn := by
  unfold record? at made
  split at made
  · split at made <;> cases made
    rfl
  · exact level_danglingRecord? made

theorem Namespace.level_records_load {layout : Layout} {path : Path} :
    ∀ record ∈ (Namespace.load layout path).records, record.level ≠ .info := by
  have skipped : ∀ record ∈ (layout.list path).found.filterMap (·.record? path),
      record.level ≠ .info := by
    intro record made
    obtain ⟨finding, -, made⟩ := List.mem_filterMap.1 made
    simp [Finding.level_record? made]
  unfold load
  simp only
  split
  · exact skipped
  · exact List.forall_mem_append.2 ⟨skipped, by simp⟩

theorem Documentation.level_records_subdirectories {documentation : Documentation}
    {layout : Layout} :
    ∀ record ∈ (documentation.subdirectories layout).records, record.level ≠ .info := by
  have skipped : ∀ record ∈ (layout.list documentation.root).found.filterMap (·.danglingRecord?),
      record.level ≠ .info := by
    intro record made
    obtain ⟨finding, -, made⟩ := List.mem_filterMap.1 made
    simp [Finding.level_danglingRecord? made]
  unfold subdirectories
  simp only
  split <;> exact skipped

theorem Repair.level_records (repair : Repair) :
    ∀ record ∈ repair.records, record.level ≠ .info := by
  intro record made
  obtain ⟨⟨link, verdict⟩, -, made⟩ := List.mem_filterMap.1 made
  cases verdict <;> cases made <;> simp

/-! ## Runs -/

namespace Run

variable {α β : Type}

/-- The run attempts to write in these trees exactly: it then adds the record of a page that has
been written to the log, or fails to write one. -/
def WritesWhen (run : Run α) (attempts : FileTree → Prop) : Prop :=
  ∀ state : RunState, ∃ log : Array LogEntry,
    (run.settle state).2.log = state.log ++ log ∧
      (attempts state.tree ↔ (∃ entry ∈ log, entry.record.IsWritten) ∨
        ∃ path cause, (run.settle state).1 = .error (.writing path cause))

theorem WritesWhen.congr {run : Run α} {attempts attempts' : FileTree → Prop}
    (writes : run.WritesWhen attempts) (same : ∀ tree, attempts tree ↔ attempts' tree) :
    run.WritesWhen attempts' :=
  funext (fun tree => propext (same tree)) ▸ writes

theorem writesWhen_pure (value : α) : (pure value : Run α).WritesWhen fun _ => False :=
  fun _ => ⟨#[], by simp [settle, EStateM.run, pure, EStateM.pure]⟩

theorem writesWhen_notify (notice : Notice) : (notify notice).WritesWhen fun _ => False :=
  fun _ => ⟨#[], by simp [settle, notify, modify, modifyGet, MonadStateOf.modifyGet, EStateM.run,
    EStateM.modifyGet]⟩

theorem writesWhen_tree : tree.WritesWhen fun _ => False :=
  fun _ => ⟨#[], by simp [settle, tree, get, getThe, MonadStateOf.get, EStateM.run, EStateM.get,
    bind, EStateM.bind, pure, EStateM.pure]⟩

theorem writesWhen_setTree (written : FileTree) : (setTree written).WritesWhen fun _ => False :=
  fun _ => ⟨#[], by simp [settle, setTree, modify, modifyGet, MonadStateOf.modifyGet, EStateM.run,
    EStateM.modifyGet]⟩

theorem writesWhen_record (records : List Record) :
    (record records).WritesWhen fun _ => ∃ record ∈ records, record.IsWritten :=
  fun state => ⟨(records.map (·.during state.activities)).toArray,
    Array.toList_inj.1 (by simp [settle, record, modify, modifyGet, MonadStateOf.modifyGet,
      EStateM.run, EStateM.modifyGet]),
    by simp [settle, record, modify, modifyGet, MonadStateOf.modifyGet, EStateM.run,
      EStateM.modifyGet, Record.during]⟩

theorem writesWhen_record_of_level {records : List Record}
    (other : ∀ record ∈ records, record.level ≠ .info) :
    (record records).WritesWhen fun _ => False :=
  (writesWhen_record records).congr fun _ => by
    simpa using fun record member => mt Record.IsWritten.level_eq (other record member)

theorem writesWhen_ofExcept (outcome : Except Failure α) :
    (ofExcept outcome).WritesWhen fun _ => ∃ path cause, outcome = .error (.writing path cause) :=
  fun _ => ⟨#[], by cases outcome <;> simp [settle, ofExcept, EStateM.run, throw, throwThe,
    MonadExceptOf.throw, EStateM.throw, pure, EStateM.pure]⟩

theorem WritesWhen.within {run : Run α} {attempts : FileTree → Prop} (activity : Activity)
    (inside : run.WritesWhen attempts) : (Run.within activity run).WritesWhen attempts := by
  intro state
  obtain ⟨log, added, shows⟩ := inside { state with activities := activity :: state.activities }
  refine ⟨log, ?_⟩
  simp only [settle, EStateM.run, Run.within] at added shows ⊢
  split at added <;> simp_all

theorem WritesWhen.ite (condition : Prop) [Decidable condition] {run other : Run α}
    {attempts attempts' : FileTree → Prop} (yes : run.WritesWhen attempts)
    (no : other.WritesWhen attempts') :
    (if condition then run else other).WritesWhen fun tree =>
      if condition then attempts tree else attempts' tree := by
  split
  · exact yes
  · exact no

theorem WritesWhen.bind {run : Run α} {next : α → Run β} {attempts : FileTree → Prop}
    {later : α → FileTree → Prop} {story : FileTree → Story α} (told : run.Tells story)
    (first : run.WritesWhen attempts) (others : ∀ value, (next value).WritesWhen (later value)) :
    (run >>= next).WritesWhen fun tree => attempts tree ∨
      ∃ value, (story tree).outcome = .ok value ∧ later value (story tree).tree := by
  intro state
  obtain ⟨_, settled⟩ := told state
  obtain ⟨log, added, shows⟩ := first state
  rw [settled] at added shows
  rw [settle_bind, settled]
  cases outcome : (story state.tree).outcome with
  | error failure => exact ⟨log, added, by simp [shows, outcome]⟩
  | ok value =>
    obtain ⟨log', added', shows'⟩ := others value _
    refine ⟨log ++ log', added'.trans ?_, ?_⟩
    · rw [← Array.append_assoc, ← added]
    · simp only [outcome, Except.ok.injEq, exists_eq_left', shows, shows', Array.mem_append]
      grind

theorem writesWhen_consult {look : Layout → Logged (Except ListingError α)}
    (other : ∀ layout, ∀ record ∈ (look layout).records, record.level ≠ .info) :
    (consult look).WritesWhen fun _ => False := by
  refine (writesWhen_tree.bind tells_tree fun tree =>
    (writesWhen_record_of_level (other tree.layout)).bind (tells_record _) fun _ =>
      writesWhen_ofExcept _).congr fun tree => ?_
  cases found : (look tree.layout).value <;> simp [found, Except.mapError]

end Run

/-! ## Pages -/

def Visit.Attempts (visit : Visit) (mode : WriteMode) (tree : FileTree) : Prop :=
  ∃ repair, visit.pages.draft tree visit.name = .ok repair ∧ repair.needsWrite mode = true

namespace FileTree

variable {mode : WriteMode} {tree : FileTree}

/-- Past completed visits, one of them comes to an attempt to write. -/
def AttemptsAmong (mode : WriteMode) (tree : FileTree) (visits : List Visit) : Prop :=
  ∃ done visit files reached, done ++ [visit] <+: visits ∧
    tree.Repaired mode done files reached ∧ visit.Attempts mode reached

theorem not_attemptsAmong_nil : ¬ tree.AttemptsAmong mode [] := by
  simp [AttemptsAmong]

theorem attemptsAmong_cons {visit : Visit} {visits : List Visit} :
    tree.AttemptsAmong mode (visit :: visits) ↔ visit.Attempts mode tree ∨
      ∃ file written, visit.pages.repairPage mode tree visit.name = .ok (file, written) ∧
        written.AttemptsAmong mode visits := by
  constructor
  · rintro ⟨done, other, files, reached, among, repaired, attempts⟩
    cases done with
    | nil =>
      obtain ⟨rfl, -⟩ := List.cons_prefix_cons.1 among
      cases repaired
      exact .inl attempts
    | cons first done =>
      rw [List.cons_append, List.cons_prefix_cons] at among
      obtain ⟨rfl, among⟩ := among
      obtain _ | ⟨step, others⟩ := repaired
      exact .inr ⟨_, _, step, done, other, _, reached, among, others, attempts⟩
  · rintro (attempts | ⟨file, written, step, done, other, files, reached, among, repaired,
      attempts⟩)
    · exact ⟨[], visit, [], tree, by simp, .nil, attempts⟩
    · exact ⟨visit :: done, other, file :: files, reached, List.cons_prefix_cons.2 ⟨rfl, among⟩,
        .cons step repaired, attempts⟩

end FileTree

namespace Run

theorem writesWhen_write (pages : Namespace) (name : String) (repair : Repair)
    (report : FileReport) :
    WritesWhen (do
      setTree (← ofExcept (pages.write (← tree) name repair))
      record [pages.writtenRecord name repair]
      return report) fun _ => True := by
  refine (writesWhen_tree.bind tells_tree fun tree =>
    (writesWhen_ofExcept (pages.write tree name repair)).bind (tells_ofExcept _) fun written =>
      (writesWhen_setTree written).bind (tells_setTree _) fun _ =>
        (writesWhen_record [pages.writtenRecord name repair]).bind (tells_record _) fun _ =>
          writesWhen_pure report).congr fun tree => ?_
  unfold Namespace.write
  cases written : tree.overwrite (pages.filePath name) (String.ofList repair.text) <;>
    simp [written, Record.IsWritten]

theorem writesWhen_repairPage (pages : Namespace) (mode : WriteMode) (name : String) :
    (repairPage pages mode name).WritesWhen (Visit.Attempts ⟨pages, name⟩ mode) := by
  have drafting := writesWhen_tree.bind tells_tree fun tree =>
    (writesWhen_ofExcept (pages.draft tree name)).bind (tells_ofExcept _) fun repair =>
      (writesWhen_record_of_level repair.level_records).bind (tells_record _) fun _ =>
        WritesWhen.ite (repair.needsWrite mode = true)
          (writesWhen_write pages name repair ⟨name, repair.changes⟩)
          (writesWhen_pure ⟨name, repair.changes⟩)
  refine (drafting.within (.page pages.path name mode)).congr fun tree => ?_
  unfold Visit.Attempts Namespace.draft
  cases found : tree.readText (pages.filePath name) <;> simp [found]

theorem writesWhen_recordFile (interval : Interval) (report : SubdirectoryReport)
    (file : FileReport) : (recordFile interval report file).WritesWhen fun _ => False := by
  have ending := (writesWhen_notify (.file file)).bind (tells_notify _) fun _ =>
    writesWhen_pure (report.record file)
  unfold recordFile
  refine (WritesWhen.ite _ ((writesWhen_notify _).bind (tells_notify _) fun _ => ending)
    ending).congr fun tree => ?_
  simp

theorem writesWhen_repairInTurn (config : Config) (pages : Namespace)
    (report : SubdirectoryReport) :
    (repairInTurn config pages report).WritesWhen
      (FileTree.AttemptsAmong config.writeMode · pages.visits) := by
  unfold repairInTurn Namespace.visits
  -- By induction on the pages that are left, for any report of those before.
  induction pages.names generalizing report with
  | nil =>
    exact (writesWhen_pure report).congr fun tree =>
      (iff_false_intro FileTree.not_attemptsAmong_nil).symm
  | cons name names ih =>
    rw [List.foldlM_cons, bind_assoc]
    refine ((writesWhen_repairPage pages config.writeMode name).bind (tells_repairPage _ _ _)
      fun file => (writesWhen_recordFile config.interval report file).bind
        (tells_recordFile _ _ _) ih).congr fun tree => ?_
    rw [List.map_cons, FileTree.attemptsAmong_cons, Namespace.pageStory]
    cases step : pages.repairPage config.writeMode tree name with
    | error failure => simp
    | ok made =>
      obtain ⟨file, written⟩ := made
      simp

end Run

/-! ## Subdirectories -/

namespace FileTree

variable {mode : WriteMode} {tree : FileTree}

def AttemptsBelow (mode : WriteMode) (tree : FileTree) (paths : List Path) : Prop :=
  ∃ (namespaces : List Namespace) (reports : List SubdirectoryReport) (pages : Namespace)
    (between : FileTree),
    namespaces.map Namespace.path ++ [pages.path] <+: paths ∧
    (∀ other ∈ namespaces, (Namespace.load tree.layout other.path).value = .ok other) ∧
    tree.Processed mode namespaces reports between ∧
    (Namespace.load tree.layout pages.path).value = .ok pages ∧
    between.AttemptsAmong mode pages.visits

theorem not_attemptsBelow_nil : ¬ tree.AttemptsBelow mode [] := by
  simp [AttemptsBelow]

theorem attemptsBelow_cons {path : Path} {paths : List Path} :
    tree.AttemptsBelow mode (path :: paths) ↔
      ∃ pages, (Namespace.load tree.layout path).value = .ok pages ∧
        (tree.AttemptsAmong mode pages.visits ∨
          ∃ files between, tree.Repaired mode pages.visits files between ∧
            between.AttemptsBelow mode paths) := by
  constructor
  · rintro ⟨namespaces, reports, pages, between, among, loaded, processed, loadedPages, attempts⟩
    cases namespaces with
    | nil =>
      obtain ⟨rfl, -⟩ := List.cons_prefix_cons.1 among
      cases processed
      exact ⟨pages, loadedPages, .inl attempts⟩
    | cons first namespaces =>
      rw [List.map_cons, List.cons_append, List.cons_prefix_cons] at among
      obtain ⟨rfl, among⟩ := among
      obtain ⟨loadedFirst, loadedOthers⟩ := List.forall_mem_cons.1 loaded
      obtain _ | ⟨repaired, others⟩ := processed
      refine ⟨first, loadedFirst, .inr ⟨_, _, repaired, namespaces, _, pages, between, among, ?_,
        others, ?_, attempts⟩⟩
      · rwa [repaired.layout]
      · rwa [repaired.layout]
  · rintro ⟨pages, loaded, attempts | ⟨files, between, repaired, namespaces, reports, other,
      reached, among, loadedOthers, processed, loadedOther, attempts⟩⟩
    · obtain ⟨same, -⟩ := Namespace.names_ascend loaded
      exact ⟨[], [], pages, tree, by simp [same], by simp, .nil, same ▸ loaded, attempts⟩
    · obtain ⟨same, -⟩ := Namespace.names_ascend loaded
      rw [repaired.layout] at loadedOthers loadedOther
      exact ⟨pages :: namespaces, _, other, reached, List.cons_prefix_cons.2 ⟨same, among⟩,
        List.forall_mem_cons.2 ⟨same ▸ loaded, loadedOthers⟩, .cons repaired processed,
        loadedOther, attempts⟩

end FileTree

theorem Documentation.attemptsWrite_iff_below {documentation : Documentation} {mode : WriteMode}
    {tree : FileTree} :
    documentation.AttemptsWrite mode tree ↔
      ∃ paths, (documentation.subdirectories tree.layout).value = .ok paths ∧
        tree.AttemptsBelow mode paths := by
  constructor
  · rintro ⟨namespaces, reports, pages, between, done, name, files, reached, repair,
      ⟨⟨names, -, listed, among⟩, loaded, processed⟩, loadedPages, ⟨⟨rest, split⟩, repaired⟩,
      drafted, needed⟩
    refine ⟨_, listed, namespaces, reports, pages, between, among, loaded, processed, loadedPages,
      _, ⟨pages, name⟩, files, reached, ⟨rest.map (⟨pages, ·⟩), ?_⟩, repaired, repair, drafted,
      needed⟩
    simp [Namespace.visits, ← split]
  · rintro ⟨paths, listed, namespaces, reports, pages, between, among, loaded, processed,
      loadedPages, done, visit, files, reached, ⟨rest, split⟩, repaired, repair, drafted, needed⟩
    obtain ⟨-, names, shown, rfl⟩ := subdirectories_eq_ok_iff_showsDirectories.1 listed
    obtain ⟨doneNames, more, parts, rfl, next⟩ :=
      List.map_eq_append_iff.1 (show pages.visits = done ++ visit :: rest by simp [← split])
    obtain ⟨name, others, rfl, rfl, -⟩ := List.map_eq_cons_iff.1 next
    exact ⟨namespaces, reports, pages, between, doneNames, name, files, reached, repair,
      ⟨⟨names, shown.ascend, listed, among⟩, loaded, processed⟩, loadedPages,
      ⟨⟨others, by simp [parts]⟩, repaired⟩, drafted, needed⟩

namespace Run

variable {config : Config}

theorem attemptsBelow_subdirectoryStory_iff {path : Path} {paths : List Path} {pages : Namespace}
    {tree : FileTree} (loaded : (Namespace.load tree.layout path).value = .ok pages) :
    let story := subdirectoryStory (Namespace.storyInTurn config) path tree
    ((∃ report, story.outcome = .ok report) ∧
        story.tree.AttemptsBelow config.writeMode paths) ↔
      ∃ files between, tree.Repaired config.writeMode pages.visits files between ∧
        between.AttemptsBelow config.writeMode paths := by
  rw [subdirectoryStory_of_ok loaded]
  constructor
  · rintro ⟨⟨report, succeeded⟩, attempts⟩
    obtain ⟨inside, first⟩ := Story.exists_ok_of_andThen succeeded
    obtain ⟨files, between, repaired⟩ := FileTree.exists_repaired_of_pagesStory first
    rw [FileTree.Repaired.framed repaired] at attempts
    exact ⟨files, between, repaired, attempts⟩
  · rintro ⟨files, between, repaired, attempts⟩
    rw [FileTree.Repaired.framed repaired]
    exact ⟨⟨_, rfl⟩, attempts⟩

theorem writesWhen_repairSubdirectory (inTurn : config.parallel = false) (schedule : Schedule)
    (path : Path) :
    (repairSubdirectory config schedule path).WritesWhen fun tree =>
      ∃ pages, (Namespace.load tree.layout path).value = .ok pages ∧
        tree.AttemptsAmong config.writeMode pages.visits := by
  unfold repairSubdirectory
  simp only [inTurn, Bool.false_eq_true, if_false]
  have repairing (pages : Namespace) :=
    (writesWhen_repairInTurn config pages (.new pages.path)).bind (tells_repairInTurn _ _ _)
      fun report => (writesWhen_notify (.finished report.path report.totals)).bind
        (tells_notify _) fun _ => writesWhen_pure report
  have quiet (pages : Namespace) : (record [⟨.debug, .files,
      s!"No markdown files in {pages.path.display}"⟩]).WritesWhen fun _ => False :=
    writesWhen_record_of_level (by simp)
  have whole := (writesWhen_consult fun _ => Namespace.level_records_load).bind
    (tells_consult (Namespace.load · path)) fun pages =>
      (writesWhen_notify (.started pages.path pages.names.length)).bind (tells_notify _) fun _ =>
        WritesWhen.ite (pages.names.isEmpty = true)
          ((quiet pages).bind (tells_record _) fun _ => repairing pages) (repairing pages)
  refine (whole.within (.subdirectory path)).congr fun tree => ?_
  cases (Namespace.load tree.layout path).value <;> simp [Except.mapError]

/-- A run in turn comes to the step that writes a page exactly when it is said to attempt it. -/
theorem writesWhen_repairDocumentation (inTurn : config.parallel = false)
    (schedules : Path → Schedule) (documentation : Documentation) :
    (repairDocumentation config schedules documentation).WritesWhen
      (documentation.AttemptsWrite config.writeMode) := by
  -- By induction on the subdirectories that are left, for any report of those before.
  have inOrder (paths : List Path) (report : RunReport) :
      WritesWhen (paths.foldlM (fun report path => do
        return report.push (← repairSubdirectory config (schedules path) path)) report)
        (FileTree.AttemptsBelow config.writeMode · paths) := by
    induction paths generalizing report with
    | nil =>
      exact (writesWhen_pure report).congr fun tree =>
        (iff_false_intro FileTree.not_attemptsBelow_nil).symm
    | cons path paths ih =>
      rw [List.foldlM_cons, bind_assoc]
      simp only [pure_bind]
      refine ((writesWhen_repairSubdirectory inTurn (schedules path) path).bind
        (tells_repairSubdirectory inTurn _ _) fun subdirectory => ih _).congr fun tree => ?_
      rw [FileTree.attemptsBelow_cons]
      cases loaded : (Namespace.load tree.layout path).value with
      | error error => simp [subdirectoryStory_of_error loaded]
      | ok pages => simp [← attemptsBelow_subdirectoryStory_iff loaded]
  refine ((writesWhen_consult fun _ => Documentation.level_records_subdirectories).bind
    (tells_consult documentation.subdirectories) fun paths => inOrder paths _).congr fun tree => ?_
  rw [Documentation.attemptsWrite_iff_below]
  cases listed : (documentation.subdirectories tree.layout).value <;> simp [Except.mapError]

end Run

end BrokenLinks
