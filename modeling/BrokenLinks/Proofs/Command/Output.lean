import BrokenLinks.Command.Invocation
import BrokenLinks.Proofs.Command.Result
import BrokenLinks.Proofs.Run.Interval
import BrokenLinks.Proofs.Run.Sequence

/-! What the output has no influence on: how the command is asked to show its work, and whether
what it shows is accepted, makes no difference to the work. -/

set_option autoImplicit false

namespace BrokenLinks.Command

variable {σ σ' : Type}

namespace Options

variable {options options' : Options} {colour colour' : Bool} {sink : Sink σ} {sink' : Sink σ'}
  {tree : FileTree} {output : σ} {output' : σ'}

/-- The options differ in what is shown and logged at most. -/
structure SameWork (options options' : Options) : Prop where
  root : options.root = options'.root
  writes : (options.dryRun || options.check) = (options'.dryRun || options'.check)
  parallel : options.parallel = options'.parallel

theorem SameWork.config (same : options.SameWork options') :
    options.config = { options'.config with interval := options.config.interval } := by
  simp [Options.config, same.root, same.writes, same.parallel]

theorem SameWork.storyIn_alike (same : options.SameWork options') (schedules : Path → Schedule)
    (documentation : Documentation) (tree : FileTree) :
    (documentation.storyIn options.config schedules tree).Alike
      (documentation.storyIn options'.config schedules tree) := by
  rw [same.config]
  exact documentation.storyIn_alike options'.config _ schedules tree

theorem SameWork.tree_execute (same : options.SameWork options') :
    (options.execute colour sink tree output).tree =
      (options'.execute colour' sink' tree output').tree := by
  cases opened : Documentation.ofRoot tree.layout options.root with
  | error failure =>
    have opened' := same.root ▸ opened
    simp [execute, opened, opened']
  | ok documentation =>
    rw [tree_execute_of_opened options _ _ _ opened,
      tree_execute_of_opened options' _ _ _ (same.root ▸ opened)]
    exact (same.storyIn_alike _ documentation tree).2

theorem SameWork.report_eq (same : options.SameWork options') {report report' : RunReport}
    (done : (options.execute colour sink tree output).result = .ok report)
    (done' : (options'.execute colour' sink' tree output').result = .ok report') :
    report = report' := by
  obtain ⟨documentation, opened, outcome⟩ := exists_storyIn_of_execute done
  obtain ⟨documentation', opened', outcome'⟩ := exists_storyIn_of_execute done'
  obtain rfl := Except.ok.inj (opened.symm.trans (same.root ▸ opened'))
  rw [(same.storyIn_alike _ documentation tree).1, outcome'] at outcome
  exact (Except.ok.inj outcome).symm

end Options

theorem tree_invoke {arguments : List Bytes} {options : Options}
    (read : Options.ofArguments arguments = .ok options) (sink : Sink σ)
    (environment : Environment) (tree : FileTree) (output : σ) :
    (invoke sink environment arguments tree output).tree =
      (options.execute environment.colour sink tree output).tree := by
  simp only [invoke, read]
  split <;> rfl

/-- Two invocations that are to repair the same pages in turn leave the same tree and come to the
same report, however they are asked to show their work and whatever is refused of what they show:
the tree is the one that the repair leaves without a command around it. -/
theorem invoke_same_work {arguments arguments' : List Bytes} {options options' : Options}
    (read : Options.ofArguments arguments = .ok options)
    (read' : Options.ofArguments arguments' = .ok options')
    (same : options.SameWork options') (inTurn : options.parallel = false)
    (sink : Sink σ) (sink' : Sink σ') (environment environment' : Environment) (tree : FileTree)
    (output : σ) (output' : σ') :
    (invoke sink environment arguments tree output).tree =
        (invoke sink' environment' arguments' tree output').tree ∧
      (∀ report report',
        (options.execute environment.colour sink tree output).result = .ok report →
        (options'.execute environment'.colour sink' tree output').result = .ok report' →
          report = report') ∧
      ∀ documentation, Documentation.ofRoot tree.layout options.root = .ok documentation →
        ∀ schedules, (invoke sink environment arguments tree output).tree =
          ((Run.repairDocumentation options.config schedules documentation).settle
            (.start tree)).2.tree := by
  refine ⟨?_, fun report report' => same.report_eq, fun documentation opened schedules => ?_⟩
  · rw [tree_invoke read, tree_invoke read', same.tree_execute]
  · obtain ⟨log, settled⟩ := Run.tells_repairDocumentation_in options.config schedules
      documentation (.start tree)
    rw [tree_invoke read, Options.tree_execute_of_opened options _ _ _ opened, settled]
    -- In turn, no schedule makes a difference.
    have config : options.config.parallel = false := inTurn
    rw [Documentation.storyIn_of_inTurn config, Documentation.storyIn_of_inTurn config]
    rfl

theorem invoke_same_work_aliased :
    let arguments := ["--output", "json", "-q", "--progress-interval", "1", "-vv", "--root=docs"]
    let documentation : Documentation := ⟨.ofString "docs"⟩
    ∃ options, Options.ofArguments (arguments.map Bytes.ofString) = .ok options ∧
      options.SameWork .default ∧
      (invoke .full ⟨"trace", some "true"⟩ (arguments.map Bytes.ofString) aliasedTree #[]).tree =
        (invoke .collecting ⟨"", none⟩ [] aliasedTree #[]).tree ∧
      (invoke .full ⟨"trace", some "true"⟩ (arguments.map Bytes.ofString) aliasedTree #[]).tree =
        ((Run.repairDocumentation options.config (fun _ => []) documentation).settle
          (.start aliasedTree)).2.tree := by
  intro arguments documentation
  let options : Options :=
    ⟨2, .ofString "docs", false, false, false, some ⟨1, by decide⟩, .json, true⟩
  have read : Options.ofArguments (arguments.map Bytes.ofString) = .ok options := by
    decide +kernel
  have read' : Options.ofArguments [] = .ok .default := by decide +kernel
  have same : options.SameWork .default := ⟨rfl, rfl, rfl⟩
  have opened : Documentation.ofRoot aliasedTree.layout options.root = .ok documentation := by
    decide +kernel
  obtain ⟨tree, -, left⟩ := invoke_same_work read read' same rfl .full .collecting
    ⟨"trace", some "true"⟩ ⟨"", none⟩ aliasedTree #[] #[]
  exact ⟨options, read, same, tree, left documentation opened _⟩

end BrokenLinks.Command
