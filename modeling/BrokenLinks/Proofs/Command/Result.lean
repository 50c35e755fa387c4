import BrokenLinks.Command.Execution
import BrokenLinks.Proofs.Run.Together

/-! What an execution of the command comes to: the tree and the report of the run that it makes,
whatever becomes of the output. -/

set_option autoImplicit false

namespace BrokenLinks.Command

variable {σ : Type} {sink : Sink σ} {tree : FileTree} {output : σ} {report : RunReport}

namespace Options

variable {options : Options} {colour : Bool}

theorem eq_of_writeLine {text : String} {report' : RunReport}
    (done : (writeLine sink output text report).1 = .ok report') : report = report' := by
  unfold writeLine at done
  split at done
  · exact Except.ok.inj done
  · contradiction

theorem eq_of_writeJson {report' : RunReport}
    (done : (writeJson sink output report).1 = .ok report') : report = report' := by
  unfold writeJson at done
  split at done
  · exact eq_of_writeLine done
  · contradiction

theorem eq_of_reportNothing {root : Path}
    (done : (options.reportNothing colour sink output root).1 = .ok report) :
    .new root options.config.isDryRun = report := by
  unfold reportNothing at done
  split at done
  · exact eq_of_writeJson done
  · exact eq_of_writeLine done

theorem eq_of_reportRun {notices : List Notice} {outcome : Except Failure RunReport}
    (done : (options.reportRun colour sink output notices outcome).1 = .ok report) :
    outcome = .ok report := by
  unfold reportRun at done
  split at done
  · rw [eq_of_writeJson done]
  · contradiction
  · simp only at done
    split at done
    · contradiction
    · split at done
      · exact congrArg Except.ok (Except.ok.inj done)
      · contradiction

variable {documentation : Documentation} {path : Path} {paths : List Path}

theorem reportRun_error (options : Options) (colour : Bool) (sink : Sink σ) (output : σ)
    (notices : List Notice) (failure : Failure) :
    (options.reportRun colour sink output notices (.error failure)).1 =
      .error (.failure failure) := by
  unfold reportRun
  cases options.format <;> rfl

theorem exists_execute (options : Options) (colour : Bool) (sink : Sink σ) (output : σ)
    (opened : Documentation.ofRoot tree.layout options.root = .ok documentation)
    (listed : (documentation.subdirectories tree.layout).value = .ok (path :: paths)) :
    let story := documentation.storyIn options.config (fun _ => []) tree
    let execution := options.execute colour sink tree output
    ∃ notices, execution.tree = story.tree ∧
      execution.result = (options.reportRun colour sink output notices story.outcome).1 := by
  simp only
  unfold execute
  simp only [opened, listed]
  obtain ⟨log, settled⟩ := Run.tells_repairDocumentation_in options.config (fun _ => [])
    documentation ⟨tree, #[], _, [.command]⟩
  exact ⟨_, by rw [settled], by rw [settled]⟩

/-- The tree is left as the run leaves it, if it comes to a run; and if it does not, the run would
have made no step. -/
theorem tree_execute_of_opened (options : Options) (colour : Bool) (sink : Sink σ) (output : σ)
    (opened : Documentation.ofRoot tree.layout options.root = .ok documentation) :
    (options.execute colour sink tree output).tree =
      (documentation.storyIn options.config (fun _ => []) tree).tree := by
  cases listed : (documentation.subdirectories tree.layout).value with
  | error error =>
    simp [execute, opened, listed, Documentation.storyIn, Documentation.storyOf_of_error listed]
  | ok paths =>
    cases paths with
    | nil =>
      simp only [execute, opened, listed, Documentation.storyIn, Documentation.storyOf_of_ok listed]
      rfl
    | cons path paths =>
      obtain ⟨notices, left, -⟩ := exists_execute options colour sink output opened listed
      exact left

theorem exists_storyIn_of_execute
    (done : (options.execute colour sink tree output).result = .ok report) :
    ∃ documentation, Documentation.ofRoot tree.layout options.root = .ok documentation ∧
      (documentation.storyIn options.config (fun _ => []) tree).outcome = .ok report := by
  cases opened : Documentation.ofRoot tree.layout options.root with
  | error failure => simp [execute, opened] at done
  | ok documentation =>
    refine ⟨documentation, rfl, ?_⟩
    cases listed : (documentation.subdirectories tree.layout).value with
    | error error => simp [execute, opened, listed] at done
    | ok paths =>
      cases paths with
      | nil =>
        simp only [execute, opened, listed] at done
        rw [Documentation.storyIn, Documentation.storyOf_of_ok listed, ← eq_of_reportNothing done]
        rfl
      | cons path paths =>
        obtain ⟨notices, -, result⟩ := exists_execute options colour sink output opened listed
        exact eq_of_reportRun (result.symm.trans done)

end Options

end BrokenLinks.Command
