import BrokenLinks.Command.Invocation
import BrokenLinks.Proofs.Command.Result
import BrokenLinks.Proofs.Command.Switches
import BrokenLinks.Proofs.Run.DryRun

/-! Invocations that write nothing: a check and a dry run leave the tree as it is. -/

set_option autoImplicit false

namespace BrokenLinks.Command

variable {σ : Type}

namespace Options

variable {options : Options}

theorem isDryRun_config (options : Options) :
    options.config.isDryRun = (options.isOn .check || options.isOn .dryRun) := by
  cases check : options.check <;> cases dryRun : options.dryRun <;>
    simp [Config.isDryRun, config, isOn, check, dryRun]

theorem writeMode_config (asked : options.isOn .check = true ∨ options.isOn .dryRun = true) :
    options.config.writeMode = .dryRun := by
  have dry := options.isDryRun_config
  rw [Bool.or_eq_true _ _ |>.mpr asked] at dry
  simpa [Config.isDryRun] using dry

theorem tree_execute (dry : options.config.writeMode = .dryRun) (colour : Bool) (sink : Sink σ)
    (tree : FileTree) (output : σ) : (options.execute colour sink tree output).tree = tree := by
  cases opened : Documentation.ofRoot tree.layout options.root with
  | error failure => simp [execute, opened]
  | ok documentation =>
    rw [tree_execute_of_opened options colour sink output opened]
    exact documentation.spares_storyIn dry _ tree

end Options

theorem tree_stop (sink : Sink σ) (tree : FileTree) (output : σ) (reason : Stop) :
    (stop sink tree output reason).tree = tree := by
  cases reason <;> rfl

/-- Asked for a check or a dry run anywhere among its arguments, the command leaves the tree as it
is, whatever else it is asked for and however it ends; and so does a run with the options that it
has read, in whichever order the steps of the pages are made. -/
theorem invoke_spares_tree {arguments : List Bytes}
    (asked : Bytes.ofString "--check" ∈ arguments ∨ Bytes.ofString "--dry-run" ∈ arguments)
    (sink : Sink σ) (environment : Environment) (tree : FileTree) (output : σ) :
    (invoke sink environment arguments tree output).tree = tree ∧
      ∀ options, Options.ofArguments arguments = .ok options →
        ∀ schedules documentation (state : RunState),
          ((Run.repairDocumentation options.config schedules documentation).settle state).2.tree =
            state.tree := by
  have dry (options : Options) (read : Options.ofArguments arguments = .ok options) :
      options.config.writeMode = .dryRun :=
    Options.writeMode_config (asked.imp (Options.isOn_of_mem read) (Options.isOn_of_mem read))
  refine ⟨?_, fun options read schedules documentation =>
    Run.tree_of_dryRun (dry options read) schedules documentation⟩
  unfold invoke
  split
  · exact tree_stop sink tree output _
  · next options read =>
    have spared := options.tree_execute (dry options read) environment.colour sink tree output
    simp only
    split <;> exact spared

theorem invoke_spares_tree_paired :
    (invoke .collecting ⟨"", none⟩ (["--parallel", "--root", ".", "--dry-run"].map .ofString)
      pairedTree #[]).tree = pairedTree :=
  (invoke_spares_tree (.inr (by simp)) _ _ _ _).1

end BrokenLinks.Command
