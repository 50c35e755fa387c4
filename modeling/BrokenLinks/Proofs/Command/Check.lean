import BrokenLinks.Proofs.Command.Delivery
import BrokenLinks.Proofs.Command.Safety
import BrokenLinks.Proofs.Run.Forecast

/-! The status of a check, and the run that it stands for. -/

set_option autoImplicit false

namespace BrokenLinks.Command

variable {σ : Type} {sink : Sink σ} {tree : FileTree} {output : σ} {report : RunReport}

namespace Options

variable {options : Options} {colour : Bool}

def plain (options : Options) : Options :=
  { options with dryRun := false, check := false, parallel := false }

/-- The root can be opened, and the run in turn attempts to write. -/
def AttemptsWrite (options : Options) (tree : FileTree) : Prop :=
  ∃ documentation, Documentation.ofRoot tree.layout options.root = .ok documentation ∧
    documentation.AttemptsWrite options.config.writeMode tree

theorem exists_story_of_execute (dry : options.config.writeMode = .dryRun)
    (done : (options.execute colour sink tree output).result = .ok report) :
    ∃ documentation, Documentation.ofRoot tree.layout options.root = .ok documentation ∧
      (documentation.story options.config tree).outcome = .ok report := by
  obtain ⟨documentation, opened, outcome⟩ := exists_storyIn_of_execute done
  have agrees := documentation.storyIn_agrees_of_dryRun dry (fun _ => []) tree
  exact ⟨documentation, opened, by rw [← agrees (.inl (by rw [outcome]; rfl)), outcome]⟩

theorem plain_attemptsWrite_iff (dry : options.config.writeMode = .dryRun)
    (done : (options.execute colour sink tree output).result = .ok report) :
    options.plain.AttemptsWrite tree ↔ report.hasChanges = true := by
  obtain ⟨documentation, opened, succeeded⟩ := exists_story_of_execute dry done
  rw [← Documentation.attemptsWrite_iff dry succeeded]
  constructor
  · rintro ⟨documentation', opened', attempts⟩
    cases opened.symm.trans opened'
    exact attempts
  · exact fun attempts => ⟨documentation, opened, attempts⟩

theorem plain_execute (dry : options.config.writeMode = .dryRun)
    (done : (options.execute colour sink tree output).result = .ok report) :
    let plain := options.plain.execute colour sink tree output
    (report.hasChanges = false → plain.tree = tree) ∧
      (report.hasChanges = true →
        (∃ path file, tree.layout.file? path = some file ∧
          plain.tree.contents file ≠ tree.contents file) ∨
        ∃ path cause, plain.result = .error (.failure (.writing path cause))) := by
  intro plain
  obtain ⟨documentation, opened, succeeded⟩ := exists_story_of_execute dry done
  have foretells := @Documentation.foretells_of_story _ _ _ _ options.plain.config dry succeeded rfl
  cases listed : (documentation.subdirectories tree.layout).value with
  | error error => simp [Documentation.story, Documentation.storyOf_of_error listed] at succeeded
  | ok paths =>
    cases paths with
    | nil =>
      rw [Documentation.story, Documentation.storyOf_of_ok listed] at succeeded
      cases succeeded
      have left : plain.tree = tree := by
        have opened' : Documentation.ofRoot tree.layout options.plain.root = .ok documentation :=
          opened
        simp only [plain, execute, opened', listed]
      exact ⟨fun _ => left, fun changes => absurd changes (by simp [RunReport.hasChanges,
        RunReport.new, Totals.zero])⟩
    | cons path paths =>
      obtain ⟨notices, left, result⟩ :=
        exists_execute options.plain colour sink output opened listed
      rw [Documentation.storyIn_of_inTurn rfl] at left result
      refine ⟨fun idle => left.trans (foretells.unchanged idle).2, fun changes => ?_⟩
      refine (foretells.changed changes).imp ?_ ?_
      · exact left ▸ id
      · rintro ⟨path, cause, refused⟩
        exact ⟨path, cause, result.trans (by rw [refused, reportRun_error])⟩

theorem status_eq (check : options.check = true) (report : RunReport) :
    options.status report = if report.hasChanges = true then 2 else 0 := by
  simp [status, check]

end Options

/-! ## Checks -/

theorem status_of_execute {arguments : List Bytes} {options : Options} {environment : Environment}
    (read : Options.ofArguments arguments = .ok options)
    (done : (options.execute environment.colour sink tree output).result = .ok report) :
    (invoke sink environment arguments tree output).status = options.status report := by
  simp only [invoke, read, done]

theorem result_writeJson_collecting {json : Json} (found : report.toJson? = some json)
    (output : Array UInt8) :
    (Options.writeJson .collecting output report).1 = .ok report := by
  have written := Sink.writeText_collecting output (json.toText ++ "\n")
  simp only [Options.writeJson, found, Options.writeLine]
  split <;> simp_all

def jsonCheck : Options := { Options.default with check := true, format := .json }

theorem exists_report_aliased :
    ∃ (report : RunReport) (json : Json),
      ((⟨.ofString "docs"⟩ : Documentation).storyIn jsonCheck.config (fun _ => [])
        aliasedTree).outcome = .ok report ∧
      report.hasChanges = true ∧ report.toJson? = some json := by
  generalize told : ((⟨.ofString "docs"⟩ : Documentation).storyIn jsonCheck.config (fun _ => [])
    aliasedTree).outcome = outcome
  have found : outcome.map (fun report => (report.hasChanges, report.toJson?.isSome)) =
      .ok (true, true) := by
    rw [← told]
    cbv
  cases outcome with
  | error failure => contradiction
  | ok report =>
    rw [Except.map, Except.ok.injEq, Prod.mk.injEq] at found
    obtain ⟨json, encoded⟩ := Option.isSome_iff_exists.1 found.2
    exact ⟨report, json, rfl, found.1, encoded⟩

/-- A dry run in turn foretells the run that writes; and so a check that has a result tells by its
status whether the plain command would attempt to write a file. -/
theorem check_foretells_writes :
    (∀ (config : Config) (schedules : Path → Schedule) (documentation : Documentation)
      (state : RunState) (report : RunReport), config.parallel = false →
      let run := fun mode => (Run.repairDocumentation { config with writeMode := mode } schedules
        documentation).settle state
      (run .dryRun).1 = .ok report →
        report.Foretells state.tree (run .apply).1 (run .apply).2.tree) ∧
    ∀ (sink : Sink σ) (environment : Environment) (arguments : List Bytes) (tree : FileTree)
      (output : σ) (options : Options) (report : RunReport),
      Bytes.ofString "--check" ∈ arguments → Options.ofArguments arguments = .ok options →
      (options.execute environment.colour sink tree output).result = .ok report →
      let status := (invoke sink environment arguments tree output).status
      let plain := options.plain.execute environment.colour sink tree output
      (status = 2 ↔ options.plain.AttemptsWrite tree) ∧
        (status = 0 ↔ ¬ options.plain.AttemptsWrite tree) ∧
        (status = 0 → plain.tree = tree) ∧
        (status = 2 → (∃ path file, tree.layout.file? path = some file ∧
            plain.tree.contents file ≠ tree.contents file) ∨
          ∃ path cause, plain.result = .error (.failure (.writing path cause))) := by
  constructor
  · intro config schedules documentation state report inTurn run dry
    exact Run.foretells_of_dryRun inTurn schedules dry
  · intro sink environment arguments tree output options report asked read done status plain
    have check : options.isOn .check = true := Options.isOn_of_mem read asked
    have dry := Options.writeMode_config (.inl check)
    obtain ⟨idle, changes⟩ := Options.plain_execute dry done
    have status_eq : status = if report.hasChanges = true then 2 else 0 :=
      (status_of_execute read done).trans (Options.status_eq check report)
    rw [Options.plain_attemptsWrite_iff dry done, status_eq]
    cases found : report.hasChanges with
    | false => simp [plain, idle found]
    | true => simpa using changes found

theorem check_foretells_writes_aliased :
    let documentation : Documentation := ⟨.ofString "docs"⟩
    let run := fun mode => (Run.repairDocumentation { Config.default with writeMode := mode }
      (fun _ => []) documentation).settle (.start aliasedTree)
    let arguments := ["--check", "--output", "json"].map Bytes.ofString
    (∃ report, (run .dryRun).1 = .ok report ∧ report.hasChanges = true ∧
      report.Foretells aliasedTree (run .apply).1 (run .apply).2.tree) ∧
    (invoke .collecting ⟨"", none⟩ arguments aliasedTree #[]).status = 2 ∧
    jsonCheck.plain.AttemptsWrite aliasedTree := by
  intro documentation run arguments
  obtain ⟨library, command⟩ := @check_foretells_writes (Array UInt8)
  obtain ⟨report, json, outcome, changes, encoded⟩ := exists_report_aliased
  have opened : Documentation.ofRoot aliasedTree.layout jsonCheck.root = .ok documentation := by
    decide +kernel
  have listed : (documentation.subdirectories aliasedTree.layout).value =
      .ok [.ofString "docs/a", .ofString "docs/b"] := by cbv
  have dry : (run .dryRun).1 = .ok report := by
    obtain ⟨log, settled⟩ := Run.tells_repairDocumentation_in jsonCheck.config (fun _ => [])
      documentation (.start aliasedTree)
    exact (congrArg Prod.fst settled).trans outcome
  have read : Options.ofArguments arguments = .ok jsonCheck := by decide +kernel
  have done : (jsonCheck.execute (Environment.colour ⟨"", none⟩) .collecting aliasedTree
      #[]).result = .ok report := by
    obtain ⟨notices, -, result⟩ := jsonCheck.exists_execute _ .collecting #[] opened listed
    rw [result, outcome]
    exact result_writeJson_collecting encoded #[]
  have found := library .default (fun _ => []) documentation (.start aliasedTree) report rfl dry
  have predicted := (command .collecting ⟨"", none⟩ arguments aliasedTree #[] jsonCheck report
    (by simp [arguments]) read done).1
  have status : (invoke .collecting ⟨"", none⟩ arguments aliasedTree #[]).status = 2 := by
    rw [status_of_execute read done, Options.status_eq rfl, if_pos changes]
  exact ⟨⟨report, dry, changes, found⟩, status, predicted.1 status⟩

end BrokenLinks.Command
