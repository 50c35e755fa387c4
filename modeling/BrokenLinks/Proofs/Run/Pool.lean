import BrokenLinks.Proofs.Run.Independence

/-! Pages of a namespace repaired side by side, under any schedule.

As long as the pages are independent, a task finds its page as it was before all of them, however
the steps are interleaved. So every task comes to what it comes to alone, and the tree is what the
visits of the completed tasks leave of it, in any order. -/

set_option autoImplicit false

namespace BrokenLinks

variable {pages : Namespace} {mode : WriteMode} {before tree : FileTree}

namespace Task

variable {task : Task}

def visit (pages : Namespace) (task : Task) : Visit := ⟨pages, task.name⟩

def isDone (task : Task) : Bool :=
  match task.phase with
  | .done _ => true
  | _ => false

def completed? (pages : Namespace) (task : Task) : Option Visit :=
  match task.phase with
  | .done (.ok _) => some (task.visit pages)
  | _ => none

def Sound (pages : Namespace) (mode : WriteMode) (before : FileTree) (task : Task) : Prop :=
  match task.phase with
  | .waiting => True
  | .drafted repair =>
    pages.draft before task.name = .ok repair ∧ repair.needsWrite mode = true
  | .done outcome => outcome = (task.visit pages).report mode before

theorem advance_cases (sound : task.Sound pages mode tree) (undone : task.isDone = false) :
    (∃ repair, (task.advance pages mode tree).value = (tree, .drafted repair) ∧
      pages.draft tree task.name = .ok repair ∧ repair.needsWrite mode = true) ∨
    (∃ file, (task.advance pages mode tree).value =
        (tree.replayIn mode [task.visit pages], .done (.ok file)) ∧
      (task.visit pages).report mode tree = .ok file) ∨
    ∃ failure, (task.advance pages mode tree).value = (tree, .done (.error failure)) ∧
      (task.visit pages).report mode tree = .error failure := by
  -- What the repair of the page comes to, made in one go.
  have alone : (∃ file written, pages.repairPage mode tree task.name = .ok (file, written) ∧
      (task.advance pages mode tree).value = (written, .done (.ok file))) ∨
      (∃ failure, pages.repairPage mode tree task.name = .error failure ∧
        (task.advance pages mode tree).value = (tree, .done (.error failure))) ∨
      ∃ repair, (task.advance pages mode tree).value = (tree, .drafted repair) ∧
        pages.draft tree task.name = .ok repair ∧ repair.needsWrite mode = true := by
    obtain ⟨name, phase⟩ := task
    unfold Namespace.repairPage
    cases phase with
    | waiting =>
      cases drafted : pages.draft tree name with
      | error failure => simp [advance, drafted, bind, Except.bind]
      | ok repair =>
        by_cases needed : repair.needsWrite mode = true <;>
          simp [advance, drafted, needed, bind, Except.bind, pure, Except.pure]
    | drafted repair =>
      obtain ⟨drafted, needed⟩ := sound
      cases written : pages.write tree name repair <;>
        simp [advance, drafted, needed, written, bind, Except.bind, pure, Except.pure]
    | done outcome => contradiction
  rcases alone with ⟨file, written, repaired, made⟩ | ⟨failure, failed, made⟩ | drafted
  · obtain ⟨text, -, -, left⟩ := @Visit.repairPage_eq_replayIn _ _ _ (task.visit pages) _ repaired
    exact .inr (.inl ⟨file, left ▸ made, Visit.report_eq_ok_iff.2 ⟨written, repaired⟩⟩)
  · refine .inr (.inr ⟨failure, made, ?_⟩)
    rw [Visit.report, visit, failed]
    rfl
  · exact .inl drafted

theorem advance_of_isDone (done : task.isDone = true) :
    (task.advance pages mode tree).value = (tree, task.phase) := by
  obtain ⟨name, phase⟩ := task
  cases phase with
  | waiting => contradiction
  | drafted repair => contradiction
  | done outcome => rfl

theorem advance_ne_waiting (pages : Namespace) (mode : WriteMode) (tree : FileTree) (task : Task) :
    (task.advance pages mode tree).value.2 ≠ .waiting := by
  obtain ⟨name, phase⟩ := task
  cases phase <;> simp only [advance] <;> repeat' split
  all_goals simp

theorem isDone_advance (started : task.phase ≠ .waiting) :
    isDone ⟨task.name, (task.advance pages mode tree).value.2⟩ = true := by
  obtain ⟨name, phase⟩ := task
  cases phase with
  | waiting => contradiction
  | drafted repair =>
    simp only [advance]
    split <;> rfl
  | done outcome => rfl

theorem Sound.congr (sound : task.Sound pages mode before)
    (same : pages.draft tree task.name = pages.draft before task.name)
    (undone : task.isDone = false) : task.Sound pages mode tree := by
  obtain ⟨name, phase⟩ := task
  cases phase with
  | waiting => trivial
  | drafted repair => exact ⟨same.trans sound.1, sound.2⟩
  | done outcome => contradiction

theorem eq_visit_of_completed? {visit : Visit} (completed : task.completed? pages = some visit) :
    task.visit pages = visit := by
  unfold completed? at completed
  split at completed
  · exact Option.some.inj completed
  · contradiction

theorem completed?_eq_none (undone : task.isDone = false) : task.completed? pages = none := by
  obtain ⟨name, phase⟩ := task
  cases phase with
  | waiting => rfl
  | drafted repair => rfl
  | done outcome => contradiction

end Task

theorem mapM_id_eq_ok_iff {ε α : Type} {outcomes : List (Except ε α)} {values : List α} :
    outcomes.mapM id = .ok values ↔ outcomes = values.map .ok := by
  induction outcomes generalizing values with
  | nil => cases values <;> simp [pure, Except.pure]
  | cons outcome outcomes ih =>
    rw [List.mapM_cons]
    cases outcome with
    | error error => cases values <;> simp [bind, Except.bind]
    | ok value =>
      cases values with
      | nil => cases outcomes.mapM id <;> simp [bind, Except.bind, pure, Except.pure]
      | cons value' values =>
        rw [List.map_cons, List.cons.injEq, ← ih]
        cases outcomes.mapM id <;> simp [bind, Except.bind, pure, Except.pure]

theorem exists_of_getElem? {α : Type} {items : List α} {position : Nat} {item : α}
    (found : items[position]? = some item) :
    ∃ front back, items = front ++ item :: back ∧
      ∀ other, items.set position other = front ++ other :: back := by
  obtain ⟨inside, rfl⟩ := List.getElem?_eq_some_iff.1 found
  refine ⟨items.take position, items.drop (position + 1), by simp, fun other => ?_⟩
  rw [List.set_eq_take_append_cons_drop, if_pos inside]

namespace Pool

variable {pool : Pool}

def start (tree : FileTree) (names : List String) : Pool where
  tree := tree
  tasks := names.map (⟨·, .waiting⟩)
  log := #[]
  activities := []

/-- The steps made so far have come to nothing but what the tasks come to alone. -/
structure Sound (pages : Namespace) (mode : WriteMode) (before : FileTree) (pool : Pool) :
    Prop where
  visits : pool.tasks.map (Task.visit pages) = pages.visits
  tasks : ∀ task ∈ pool.tasks, task.Sound pages mode before
  /-- In the order in which they were completed. -/
  replayed : ∃ visits : List Visit, visits.Perm (pool.tasks.filterMap (Task.completed? pages)) ∧
    pool.tree = before.replayIn mode visits

theorem sound_start (pages : Namespace) (mode : WriteMode) (before : FileTree) :
    (start before pages.names).Sound pages mode before where
  visits := by simp [start, Namespace.visits, Task.visit, Function.comp_def]
  tasks := by simp [start, Task.Sound]
  replayed := ⟨[], by simp [start, Task.completed?, List.filterMap_map, Function.comp_def],
    by rw [FileTree.replayIn_nil]; rfl⟩

variable {front back : List Task} {task : Task} {phase : Phase}

theorem Sound.set (sound : pool.Sound pages mode before)
    (tasks : pool.tasks = front ++ task :: back) (undone : task.completed? pages = none)
    (soundTask : Task.Sound pages mode before ⟨task.name, phase⟩) (log : Array LogEntry) :
    Sound pages mode before { pool with
      tree := pool.tree.replayIn mode (Task.completed? pages ⟨task.name, phase⟩).toList
      tasks := front ++ ⟨task.name, phase⟩ :: back
      log := log } := by
  obtain ⟨visits, soundTasks, completed, inOrder, replayed⟩ := sound
  rw [tasks] at visits soundTasks inOrder
  rw [List.forall_mem_append, List.forall_mem_cons] at soundTasks
  refine ⟨?_, ?_, completed ++ (Task.completed? pages ⟨task.name, phase⟩).toList, ?_, ?_⟩
  · simpa [Task.visit] using visits
  · exact List.forall_mem_append.2
      ⟨soundTasks.1, List.forall_mem_cons.2 ⟨soundTask, soundTasks.2.2⟩⟩
  · rw [List.filterMap_append, List.filterMap_cons_none undone] at inOrder
    rw [List.filterMap_append, List.filterMap_cons]
    cases Task.completed? pages ⟨task.name, phase⟩ with
    | none => simpa using inOrder
    | some visit =>
      exact (List.perm_append_singleton visit completed).trans
        ((inOrder.cons visit).trans List.perm_middle.symm)
  · rw [FileTree.replayIn_append, ← replayed]

theorem Sound.independent (sound : pool.Sound pages mode before)
    (independent : pages.visits.Pairwise (Visit.Independent mode before.layout))
    (tasks : pool.tasks = front ++ task :: back) (undone : task.completed? pages = none) :
    ∀ visit ∈ pool.tasks.filterMap (Task.completed? pages),
      visit.Independent mode before.layout (task.visit pages) := by
  intro visit member
  rw [← sound.visits, tasks, List.map_append, List.map_cons, List.pairwise_append,
    List.pairwise_cons] at independent
  obtain ⟨-, ⟨after, -⟩, across⟩ := independent
  rw [tasks, List.mem_filterMap] at member
  obtain ⟨other, among, completed⟩ := member
  rw [← Task.eq_visit_of_completed? completed]
  rcases List.mem_append.1 among with inFront | inBack
  · exact across _ (List.mem_map_of_mem inFront) _ (.head _)
  · rcases List.mem_cons.1 inBack with rfl | inBack
    · simp [undone] at completed
    · exact (after _ (List.mem_map_of_mem inBack)).symm

/-- Whatever has been completed so far, a task comes to what it comes to alone. -/
theorem Sound.step (sound : pool.Sound pages mode before)
    (independent : pages.visits.Pairwise (Visit.Independent mode before.layout))
    (position : Nat) : (pool.step pages mode position).Sound pages mode before := by
  unfold Pool.step
  cases found : pool.tasks[position]? with
  | none => exact sound
  | some task =>
    obtain ⟨front, back, tasks, atPosition⟩ := exists_of_getElem? found
    simp only [atPosition]
    have soundTask : task.Sound pages mode before := sound.tasks task (by simp [tasks])
    cases done : task.isDone with
    | true =>
      have same : front ++ ⟨task.name, task.phase⟩ :: back = pool.tasks := tasks.symm
      rw [Task.advance_of_isDone done, same]
      exact ⟨sound.visits, sound.tasks, sound.replayed⟩
    | false =>
      have undone : task.completed? pages = none := Task.completed?_eq_none done
      obtain ⟨visits, inOrder, replayed⟩ := sound.replayed
      have untouched : ∀ visit ∈ visits,
          visit.Independent mode before.layout (task.visit pages) := fun visit member =>
        sound.independent independent tasks undone visit (inOrder.mem_iff.1 member)
      -- The task finds its page as it was at the start.
      have drafts : pages.draft pool.tree task.name = pages.draft before task.name := by
        rw [replayed]
        exact (FileTree.draft_replayIn untouched :)
      have reports : (task.visit pages).report mode pool.tree =
          (task.visit pages).report mode before := by
        rw [replayed]
        exact FileTree.report_replayIn untouched
      rcases Task.advance_cases (soundTask.congr drafts done) done with ⟨repair, made, drafted,
        needed⟩ | ⟨file, made, reported⟩ | ⟨failure, made, failed⟩
      · rw [made]
        have next : Task.Sound pages mode before ⟨task.name, .drafted repair⟩ :=
          ⟨drafts ▸ drafted, needed⟩
        simpa [Task.completed?] using sound.set tasks undone next _
      · rw [made]
        have next : Task.Sound pages mode before ⟨task.name, .done (.ok file)⟩ :=
          reported.symm.trans reports
        exact sound.set tasks undone next _
      · rw [made]
        have next : Task.Sound pages mode before ⟨task.name, .done (.error failure)⟩ :=
          failed.symm.trans reports
        simpa [Task.completed?] using sound.set tasks undone next _

theorem Sound.run (sound : pool.Sound pages mode before)
    (independent : pages.visits.Pairwise (Visit.Independent mode before.layout))
    (schedule : Schedule) : (pool.run pages mode schedule).Sound pages mode before := by
  induction schedule generalizing pool with
  | nil => exact sound
  | cons position schedule ih => exact ih (sound.step independent position)

/-! ## The end of a schedule -/

def DoneAt (pool : Pool) (position : Nat) : Prop :=
  ∀ task, pool.tasks[position]? = some task → task.isDone = true

theorem run_append (pages : Namespace) (mode : WriteMode) (pool : Pool)
    (first second : Schedule) :
    pool.run pages mode (first ++ second) = (pool.run pages mode first).run pages mode second :=
  List.foldl_append

theorem tasks_step (pages : Namespace) (mode : WriteMode) (pool : Pool) (position other : Nat) :
    (pool.step pages mode position).tasks[other]? =
      if position = other then
        pool.tasks[other]?.map fun task =>
          ⟨task.name, (task.advance pages mode pool.tree).value.2⟩
      else pool.tasks[other]? := by
  unfold step
  by_cases same : position = other
  · subst same
    cases found : pool.tasks[position]? with
    | none => simp [found]
    | some task =>
      obtain ⟨inside, -⟩ := List.getElem?_eq_some_iff.1 found
      simp [inside]
  · rw [if_neg same]
    cases pool.tasks[position]? with
    | none => rfl
    | some task => exact List.getElem?_set_ne same

theorem DoneAt.step {position : Nat} (done : pool.DoneAt position) (other : Nat) :
    (pool.step pages mode other).DoneAt position := by
  intro task found
  rw [tasks_step] at found
  split at found
  · obtain ⟨task', found', rfl⟩ := Option.map_eq_some_iff.1 found
    have isDone := done task' found'
    rw [Task.advance_of_isDone isDone]
    exact isDone
  · exact done task found

theorem DoneAt.run {position : Nat} (done : pool.DoneAt position) (schedule : Schedule) :
    (pool.run pages mode schedule).DoneAt position := by
  induction schedule generalizing pool with
  | nil => exact done
  | cons other schedule ih => exact ih (done.step other)

theorem doneAt_step_step (pages : Namespace) (mode : WriteMode) (pool : Pool) (position : Nat) :
    ((pool.step pages mode position).step pages mode position).DoneAt position := by
  -- The first step reads the page of a task that waits, and the second one ends its repair.
  intro task found
  rw [tasks_step, if_pos rfl, tasks_step, if_pos rfl] at found
  obtain ⟨task', found', rfl⟩ := Option.map_eq_some_iff.1 found
  obtain ⟨task, -, rfl⟩ := Option.map_eq_some_iff.1 found'
  exact Task.isDone_advance (Task.advance_ne_waiting _ _ _ task)

theorem doneAt_inOrder (pages : Namespace) (mode : WriteMode) (pool : Pool) (count : Nat) :
    ∀ position < count, (pool.run pages mode (.inOrder count)).DoneAt position := by
  induction count with
  | zero => simp
  | succ count ih =>
    intro position below
    have same : Schedule.inOrder (count + 1) = .inOrder count ++ [count, count] := by
      simp [Schedule.inOrder, List.range_succ]
    rw [same, run_append]
    rcases Nat.lt_succ_iff_lt_or_eq.1 below with earlier | rfl
    · exact (ih position earlier).run _
    · exact doneAt_step_step pages mode _ _

/-- What the tasks are a part of, and what has been logged, has no influence on them. -/
theorem run_congr (pages : Namespace) (mode : WriteMode) (pool pool' : Pool)
    (tree : pool'.tree = pool.tree) (tasks : pool'.tasks = pool.tasks) (schedule : Schedule) :
    (pool'.run pages mode schedule).tree = (pool.run pages mode schedule).tree ∧
      (pool'.run pages mode schedule).tasks = (pool.run pages mode schedule).tasks := by
  induction schedule generalizing pool pool' with
  | nil => exact ⟨tree, tasks⟩
  | cons position schedule ih =>
    refine ih (pool.step pages mode position) (pool'.step pages mode position) ?_ ?_
    all_goals
      unfold step
      rw [tasks]
      cases pool.tasks[position]? with
      | none => assumption
      | some task => simp only [tree]

theorem length_tasks_run (pages : Namespace) (mode : WriteMode) (pool : Pool)
    (schedule : Schedule) : (pool.run pages mode schedule).tasks.length = pool.tasks.length := by
  induction schedule generalizing pool with
  | nil => rfl
  | cons position schedule ih =>
    refine (ih _).trans ?_
    unfold step
    split <;> simp

theorem isDone_run (pages : Namespace) (mode : WriteMode) (pool : Pool) (schedule : Schedule) :
    ∀ task ∈ (pool.run pages mode (schedule ++ .inOrder pool.tasks.length)).tasks,
      task.isDone = true := by
  -- Whatever the schedule leaves undone, the steps in order after it complete.
  intro task member
  obtain ⟨position, inside, rfl⟩ := List.getElem_of_mem member
  rw [length_tasks_run] at inside
  have done := doneAt_inOrder pages mode (pool.run pages mode schedule) _ position inside
  rw [← run_append] at done
  exact done _ (List.getElem?_eq_getElem _)

theorem Sound.outcome_eq (sound : pool.Sound pages mode before)
    (done : ∀ task ∈ pool.tasks, task.isDone = true) :
    pool.outcome = (pages.visits.map (Visit.report mode before)).mapM id := by
  unfold outcome
  rw [← sound.visits, List.map_map, ← List.filterMap_eq_map]
  congr 1
  refine List.filterMap_congr fun task member => ?_
  have soundTask := sound.tasks task member
  have isDone := done task member
  obtain ⟨name, phase⟩ := task
  cases phase with
  | waiting => contradiction
  | drafted repair => contradiction
  | done outcome => exact congrArg some soundTask

theorem Sound.tree_eq (sound : pool.Sound pages mode before)
    (independent : pages.visits.Pairwise (Visit.Independent mode before.layout))
    (done : ∀ task ∈ pool.tasks, task.isDone = true) {files : List FileReport}
    (reported : pages.visits.map (Visit.report mode before) = files.map .ok) :
    pool.tree = before.replayIn mode pages.visits := by
  obtain ⟨visits, inOrder, replayed⟩ := sound.replayed
  have all : pool.tasks.filterMap (Task.completed? pages) = pages.visits := by
    rw [← sound.visits, ← List.filterMap_eq_map]
    refine List.filterMap_congr fun task member => ?_
    have succeeded : (task.visit pages).report mode before ∈ files.map Except.ok := by
      rw [← reported, ← sound.visits, List.map_map]
      exact List.mem_map_of_mem member
    obtain ⟨file, -, found⟩ := List.mem_map.1 succeeded
    have soundTask := sound.tasks task member
    have isDone := done task member
    obtain ⟨name, phase⟩ := task
    cases phase with
    | waiting => contradiction
    | drafted repair => contradiction
    | done outcome =>
      cases soundTask.trans found.symm
      rfl
  rw [replayed]
  rw [all] at inOrder
  exact (FileTree.replayIn_perm inOrder.symm independent).symm

/-- Under any schedule, pages repaired side by side come to what they come to in turn. -/
theorem run_iff_repaired
    (independent : pages.visits.Pairwise (Visit.Independent mode before.layout))
    (schedule : Schedule) {files : List FileReport} {ended : FileTree} :
    let pool := (start before pages.names).run pages mode
      (schedule ++ .inOrder pages.names.length)
    pool.outcome = .ok files ∧ pool.tree = ended ↔
      before.Repaired mode pages.visits files ended := by
  intro pool
  have sound : pool.Sound pages mode before := (sound_start pages mode before).run independent _
  have done : ∀ task ∈ pool.tasks, task.isDone = true := by
    have all := isDone_run pages mode (start before pages.names) schedule
    rwa [show (start before pages.names).tasks.length = pages.names.length by simp [start]] at all
  rw [sound.outcome_eq done, mapM_id_eq_ok_iff, FileTree.repaired_iff independent]
  refine and_congr_right fun reported => ?_
  rw [sound.tree_eq independent done reported, eq_comm]

end Pool

/-! ## Pages of which several lead to one file -/

namespace Task

variable {task : Task}

def Named (task : Task) : Prop :=
  ∀ file, task.phase = .done (.ok file) → file.name = task.name

theorem layout_advance (pages : Namespace) (mode : WriteMode) (tree : FileTree) (task : Task) :
    (task.advance pages mode tree).value.1.layout = tree.layout := by
  obtain ⟨name, phase⟩ := task
  cases phase with
  | waiting =>
    simp only [advance]
    split
    · rfl
    · split <;> rfl
  | drafted repair =>
    simp only [advance, Namespace.write]
    cases written : tree.overwrite (pages.filePath name) (String.ofList repair.text) with
    | error cause => rfl
    | ok written' => exact FileTree.layout_eq_of_overwrite written
  | done outcome => rfl

theorem Named.advance (named : task.Named) (pages : Namespace) (mode : WriteMode)
    (tree : FileTree) : Named ⟨task.name, (task.advance pages mode tree).value.2⟩ := by
  obtain ⟨name, phase⟩ := task
  intro file done
  cases phase with
  | done outcome => exact named file done
  | waiting =>
    simp only [Task.advance] at done
    repeat' split at done
    all_goals cases done
    rfl
  | drafted repair =>
    simp only [Task.advance] at done
    split at done
    all_goals cases done
    rfl

end Task

namespace Pool

variable {pool : Pool}

theorem layout_run (pages : Namespace) (mode : WriteMode) (pool : Pool) (schedule : Schedule) :
    (pool.run pages mode schedule).tree.layout = pool.tree.layout := by
  induction schedule generalizing pool with
  | nil => rfl
  | cons position schedule ih =>
    refine (ih _).trans ?_
    unfold step
    split
    · rfl
    · exact Task.layout_advance pages mode pool.tree _

theorem names_step (pages : Namespace) (mode : WriteMode) (pool : Pool) (position : Nat)
    (named : ∀ task ∈ pool.tasks, task.Named) :
    (pool.step pages mode position).tasks.map Task.name = pool.tasks.map Task.name ∧
      ∀ task ∈ (pool.step pages mode position).tasks, task.Named := by
  unfold step
  cases found : pool.tasks[position]? with
  | none => exact ⟨rfl, named⟩
  | some task =>
    obtain ⟨front, back, tasks, atPosition⟩ := exists_of_getElem? found
    simp only [atPosition]
    rw [tasks, List.forall_mem_append, List.forall_mem_cons] at named
    rw [tasks]
    refine ⟨by simp, List.forall_mem_append.2 ⟨named.1, List.forall_mem_cons.2 ⟨?_, named.2.2⟩⟩⟩
    exact named.2.1.advance pages mode pool.tree

theorem names_run (pages : Namespace) (mode : WriteMode) (schedule : Schedule)
    (named : ∀ task ∈ pool.tasks, task.Named) :
    (pool.run pages mode schedule).tasks.map Task.name = pool.tasks.map Task.name ∧
      ∀ task ∈ (pool.run pages mode schedule).tasks, task.Named := by
  induction schedule generalizing pool with
  | nil => exact ⟨rfl, named⟩
  | cons position schedule ih =>
    obtain ⟨same, stepped⟩ := names_step pages mode pool position named
    obtain ⟨same', ended⟩ := ih stepped
    exact ⟨same'.trans same, ended⟩

theorem names_of_outcome {files : List FileReport} (done : ∀ task ∈ pool.tasks, task.isDone = true)
    (named : ∀ task ∈ pool.tasks, task.Named) (reported : pool.outcome = .ok files) :
    files.map FileReport.name = pool.tasks.map Task.name := by
  unfold outcome at reported
  rw [mapM_id_eq_ok_iff] at reported
  generalize pool.tasks = tasks at done named reported
  induction tasks generalizing files with
  | nil => simpa using reported
  | cons task tasks ih =>
    obtain ⟨isDone, othersDone⟩ := List.forall_mem_cons.1 done
    obtain ⟨name, othersNamed⟩ := List.forall_mem_cons.1 named
    obtain ⟨taskName, phase⟩ := task
    cases phase with
    | waiting => contradiction
    | drafted repair => contradiction
    | done outcome =>
      simp only [List.filterMap_cons] at reported
      cases files with
      | nil => contradiction
      | cons file files =>
        obtain ⟨rfl, others⟩ := List.cons.inj reported
        rw [List.map_cons, List.map_cons, ih othersDone othersNamed others, name file rfl]

end Pool

end BrokenLinks
