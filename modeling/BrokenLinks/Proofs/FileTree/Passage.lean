import BrokenLinks.FileTree.Layout
import Mathlib.Data.List.Basic

/-! Where the steps of a path lead, and how many links they follow on the way.

One step fails, goes on to a place, or meets a link. The passage made by some steps is independent
of the steps after it, so a look-up in a directory begins where the look-up of the directory has
ended, with as many links less to follow as that one has followed. -/

set_option autoImplicit false

namespace BrokenLinks

/-! ## Names put behind a path -/

namespace Path

structure IsEntryName (name : Name) : Prop where
  nonempty : name ≠ []
  notHere : isHere name = false
  notParent : isParent name = false
  noSlash : Bytes.slash ∉ name
  noZero : 0 ∉ name

instance : DecidablePred IsEntryName := fun name =>
  decidable_of_iff
    (name ≠ [] ∧ isHere name = false ∧ isParent name = false ∧ Bytes.slash ∉ name ∧ 0 ∉ name)
    ⟨fun ⟨nonempty, notHere, notParent, noSlash, noZero⟩ =>
      ⟨nonempty, notHere, notParent, noSlash, noZero⟩,
    fun ⟨nonempty, notHere, notParent, noSlash, noZero⟩ =>
      ⟨nonempty, notHere, notParent, noSlash, noZero⟩⟩

def entered (path : Path) : List Step :=
  (path.pieces.filter (!·.isEmpty)).map .enter

variable {path : Path} {name : Name}

theorem steps_eq_entered (path : Path) :
    path.steps = path.entered ∨ path.steps = path.entered ++ [.settle] := by
  unfold steps entered
  simp only
  split
  · exact .inr rfl
  · exact .inl rfl

theorem mem_pieces_of_mem_steps (entered : .enter name ∈ path.steps) : name ∈ path.pieces := by
  have mem : Step.enter name ∈ path.entered := by
    rcases path.steps_eq_entered with same | same <;> simpa [same] using entered
  simp only [Path.entered, List.mem_map, List.mem_filter, Step.enter.injEq, exists_eq_right] at mem
  exact mem.1

theorem join_of_noSlash (noSlash : Bytes.slash ∉ name) (nonempty : path.bytes ≠ []) :
    ∃ before, (path.bytes = before ∨ path.bytes = before ++ [Bytes.slash]) ∧
      (path.join name).bytes = before ++ Bytes.slash :: name := by
  have relative : (Path.mk name).isAbsolute = false := by
    cases name with
    | nil => rfl
    | cons first others =>
      simp only [List.mem_cons, not_or] at noSlash
      simpa [isAbsolute] using Ne.symm noSlash.1
  by_cases ends : path.bytes.getLast? = some Bytes.slash
  · obtain ⟨before, split⟩ := List.getLast?_eq_some_iff.1 ends
    exact ⟨before, .inr split, by simp [join, relative, split]⟩
  · exact ⟨path.bytes, .inl rfl, by simp [join, relative, ends, nonempty]⟩

theorem join_ne (proper : IsEntryName name) (nonempty : path.bytes ≠ []) :
    path.join name ≠ path := by
  intro same
  obtain ⟨before, spelled, joined⟩ := join_of_noSlash proper.noSlash nonempty
  have some := List.length_pos_iff.2 proper.nonempty
  have longer := congrArg List.length joined
  rw [same] at longer
  rcases spelled with spelled | spelled <;>
    simp only [spelled, List.length_append, List.length_cons, List.length_nil] at longer <;> omega

theorem pieces_join (noSlash : Bytes.slash ∉ name) (nonempty : path.bytes ≠ []) :
    (path.join name).pieces.filter (!·.isEmpty) =
      path.pieces.filter (!·.isEmpty) ++ [name].filter (!·.isEmpty) := by
  obtain ⟨before, spelled, joined⟩ := join_of_noSlash noSlash nonempty
  have split : (path.join name).pieces = before.splitOn Bytes.slash ++ [name] := by
    rw [pieces, joined, List.splitOn_append_cons_self, List.splitOn_eq_singleton noSlash]
  rcases spelled with spelled | spelled
  · rw [split, pieces, spelled, List.filter_append]
  · rw [split, pieces, spelled, List.splitOn_append_cons_self, List.splitOn_nil]
    simp [List.filter_append]

theorem steps_join (proper : IsEntryName name) (nonempty : path.bytes ≠ []) :
    (path.join name).steps = path.entered ++ [.enter name] := by
  obtain ⟨before, -, joined⟩ := join_of_noSlash proper.noSlash nonempty
  have unsettled : (path.join name).bytes.getLast? ≠ some Bytes.slash := by
    rw [joined, List.getLast?_append_cons, List.getLast?_cons_of_ne_nil proper.nonempty]
    exact fun ends => proper.noSlash (List.mem_of_getLast? ends)
  have pieces := pieces_join proper.noSlash nonempty
  have named : [name].filter (!·.isEmpty) = [name] := by simp [proper.nonempty]
  simp [steps, entered, pieces, named, unsettled]

theorem start_join (noSlash : Bytes.slash ∉ name) (nonempty : path.bytes ≠ [])
    (directory : Location) :
    Layout.start (path.join name) directory = Layout.start path directory := by
  have same : (path.join name).isAbsolute = path.isAbsolute := by
    obtain ⟨before, spelled, joined⟩ := join_of_noSlash noSlash nonempty
    unfold isAbsolute
    rw [joined]
    cases before with
    | nil => rcases spelled with spelled | spelled <;> simp_all
    | cons first others => rcases spelled with spelled | spelled <;> simp [spelled]
  simp only [Layout.start, same]

theorem zero_mem_join_iff (proper : IsEntryName name) (nonempty : path.bytes ≠ []) :
    0 ∈ (path.join name).bytes ↔ 0 ∈ path.bytes := by
  obtain ⟨before, spelled, joined⟩ := join_of_noSlash proper.noSlash nonempty
  have notSlash : (0 : UInt8) ≠ Bytes.slash := by decide
  rcases spelled with spelled | spelled <;>
    simp [joined, spelled, proper.noZero, notSlash]

end Path

namespace Layout

variable {layout : Layout} {ending : Ending} {place next goal : Location} {step : Step}
  {steps more : List Step} {links spent : Nat}

/-! ## One step -/

inductive Turn where
  | onward (next : Location)
  | link (name : Name) (target : Path)

def Turn.into (name : Name) (place : Location) : Option Node → Turn
  | some (.link target) => .link name target
  | _ => .onward (name :: place)

theorem Turn.eq_of_into_onward {name : Name} {found : Option Node}
    (met : into name place found = .onward next) : next = name :: place := by
  unfold into at met
  split at met
  · contradiction
  · cases met
    rfl

theorem Turn.eq_of_into_link {name name' : Name} {target : Path} {found : Option Node}
    (met : into name place found = .link name' target) :
    name' = name ∧ found = some (.link target) := by
  unfold into at met
  split at met
  · cases met
    exact ⟨rfl, rfl⟩
  · contradiction

def turn (layout : Layout) (place : Location) (step : Step) : Except AccessError Turn :=
  match layout.node? place, step with
  | none, _ => .error .notFound
  | some (.directory _), .settle => .ok (.onward place)
  | some (.directory access), .enter name =>
    if !access.search then .error .permissionDenied
    else if Path.isHere name then .ok (.onward place)
    else if Path.isParent name then .ok (.onward place.tail)
    else if name.length > nameLimit then .error .nameTooLong
    else .ok (.into name place (layout.node? (name :: place)))
  | some _, _ => .error .notADirectory

theorem walk_cons (layout : Layout) (ending : Ending)
    (follow : Path → Location → List Step → Except AccessError Location) (place : Location)
    (step : Step) (steps : List Step) :
    layout.walk ending follow place (step :: steps) =
      match layout.turn place step with
      | .error cause => .error cause
      | .ok (.onward next) => layout.walk ending follow next steps
      | .ok (.link name target) =>
        if steps.isEmpty ∧ ending = .kept then .ok (name :: place)
        else follow target place steps := by
  cases here : layout.node? place with
  | none => simp [walk, turn, here]
  | some node =>
    cases node with
    | file id access => simp [walk, turn, here]
    | link target => simp [walk, turn, here]
    | device => simp [walk, turn, here]
    | directory access =>
      cases step with
      | settle => simp [walk, turn, here]
      | enter name =>
        simp only [walk, turn, here]
        by_cases searched : access.search
        · by_cases staying : Path.isHere name
          · simp [searched, staying]
          by_cases leaving : Path.isParent name
          · simp [searched, staying, leaving]
          by_cases long : name.length > nameLimit
          · simp [searched, staying, leaving, long]
          simp only [searched, staying, leaving, long, Bool.not_true, if_false,
            Bool.false_eq_true]
          cases layout.node? (name :: place) with
          | none => rfl
          | some node => cases node <;> rfl
        · simp [searched]

theorem walkLinks_cons (layout : Layout) (ending : Ending) (links : Nat) (place : Location)
    (step : Step) (steps : List Step) :
    layout.walkLinks ending links place (step :: steps) =
      match layout.turn place step with
      | .error cause => .error cause
      | .ok (.onward next) => layout.walkLinks ending links next steps
      | .ok (.link name target) =>
        if steps.isEmpty ∧ ending = .kept then .ok (name :: place)
        else
          match links with
          | 0 => .error .tooManyLinks
          | links + 1 =>
            layout.walkLinks ending links (start target place) (target.steps ++ steps) := by
  cases links <;> rw [walkLinks, walk_cons]

@[simp] theorem walkLinks_nil (layout : Layout) (ending : Ending) (links : Nat)
    (place : Location) : layout.walkLinks ending links place [] = .ok place := by
  cases links <;> rw [walkLinks, walk]

/-- A look-up goes on with fewer steps, or with any steps when one link less may be followed. -/
theorem walkLinks_induction {motive : Nat → Location → List Step → Prop}
    (nil : ∀ links place, motive links place [])
    (cons : ∀ links place step steps, (∀ next, motive links next steps) →
      (∀ fewer < links, ∀ start steps, motive fewer start steps) →
      motive links place (step :: steps))
    (links : Nat) (place : Location) (steps : List Step) : motive links place steps := by
  induction links using Nat.strongRecOn generalizing place steps with
  | ind links followed =>
    induction steps generalizing place with
    | nil => exact nil links place
    | cons step steps onward => exact cons links place step steps onward followed

theorem directory_of_turn {turned : Turn} (took : layout.turn place step = .ok turned) :
    ∃ access, layout.node? place = some (.directory access) := by
  unfold turn at took
  split at took
  case h_2 found => exact ⟨_, found⟩
  case h_3 found => exact ⟨_, found⟩
  all_goals contradiction

theorem next_of_turn (took : layout.turn place step = .ok (.onward next)) :
    next = place ∨ next = place.tail ∨ ∃ name, step = .enter name ∧ next = name :: place := by
  unfold turn at took
  repeat' split at took
  all_goals simp only [reduceCtorEq, Except.ok.injEq, Turn.onward.injEq] at took
  case h_2 => exact .inl took.symm
  case h_3.isFalse.isTrue => exact .inl took.symm
  case h_3.isFalse.isFalse.isTrue => exact .inr (.inl took.symm)
  case h_3.isFalse.isFalse.isFalse.isFalse =>
    exact .inr (.inr ⟨_, rfl, Turn.eq_of_into_onward took⟩)

theorem eq_onward_of_settle {turned : Turn} (took : layout.turn place .settle = .ok turned) :
    turned = .onward place := by
  obtain ⟨access, here⟩ := directory_of_turn took
  simp only [turn, here, Except.ok.injEq] at took
  exact took.symm

theorem link_of_turn {name : Name} {target : Path}
    (took : layout.turn place step = .ok (.link name target)) :
    step = .enter name ∧ layout.node? (name :: place) = some (.link target) := by
  unfold turn at took
  repeat' split at took
  all_goals simp only [reduceCtorEq, Except.ok.injEq] at took
  obtain ⟨rfl, found⟩ := Turn.eq_of_into_link took
  exact ⟨rfl, found⟩

/-! ## Passages -/

/-- The steps lead from one place to another, on which so many links are followed, the last step
included. -/
inductive Leads (layout : Layout) : Location → List Step → Nat → Location → Prop where
  | arrived {place : Location} : Leads layout place [] 0 place
  | onward {place next goal : Location} {step : Step} {steps : List Step} {spent : Nat}
      (took : layout.turn place step = .ok (.onward next))
      (others : Leads layout next steps spent goal) :
      Leads layout place (step :: steps) spent goal
  | follow {place goal : Location} {step : Step} {steps : List Step} {spent : Nat} {name : Name}
      {target : Path} (took : layout.turn place step = .ok (.link name target))
      (others : Leads layout (start target place) (target.steps ++ steps) spent goal) :
      Leads layout place (step :: steps) (spent + 1) goal

theorem Leads.walkLinks_append (leads : layout.Leads place steps spent goal) (links : Nat)
    (followed : more ≠ [] ∨ ending = .followed) :
    layout.walkLinks ending links place (steps ++ more) =
      if spent ≤ links then layout.walkLinks ending (links - spent) goal more
      else .error .tooManyLinks := by
  induction leads generalizing links with
  | arrived => simp
  | onward took others ih =>
    rw [List.cons_append, walkLinks_cons, took]
    exact ih links
  | @follow place goal step steps spent name target took others ih =>
    have goesOn : ¬((steps ++ more).isEmpty ∧ ending = .kept) := by
      rcases followed with some | rfl
      · simp [some]
      · simp
    rw [List.cons_append, walkLinks_cons, took]
    simp only [goesOn, if_false]
    cases links with
    | zero => simp
    | succ links => simp only [← List.append_assoc, ih, Nat.add_le_add_iff_right,
        Nat.add_sub_add_right]

theorem Leads.walkLinks (leads : layout.Leads place steps spent goal) (links : Nat) :
    layout.walkLinks .followed links place steps =
      if spent ≤ links then .ok goal else .error .tooManyLinks := by
  have whole : layout.walkLinks .followed links place (steps ++ []) = _ :=
    leads.walkLinks_append links (.inr rfl)
  simpa using whole

theorem exists_leads (reached : layout.walkLinks .followed links place steps = .ok goal) :
    ∃ spent ≤ links, layout.Leads place steps spent goal := by
  induction links, place, steps using walkLinks_induction with
  | nil links place =>
    rw [walkLinks_nil] at reached
    cases reached
    exact ⟨0, Nat.zero_le _, .arrived⟩
  | cons links place step steps onward followed =>
    rw [walkLinks_cons] at reached
    cases took : layout.turn place step with
    | error cause => simp [took] at reached
    | ok turned =>
      cases turned with
      | onward next =>
        simp only [took] at reached
        obtain ⟨spent, few, leads⟩ := onward next reached
        exact ⟨spent, few, .onward took leads⟩
      | link name target =>
        simp only [took, reduceCtorEq, and_false, if_false] at reached
        cases links with
        | zero => contradiction
        | succ links =>
          obtain ⟨spent, few, leads⟩ := followed links (Nat.lt_succ_self _) _ _ reached
          exact ⟨spent + 1, Nat.succ_le_succ few, .follow took leads⟩

theorem Leads.exists_node {node : Node} (leads : layout.Leads place steps spent goal)
    (found : layout.node? goal = some node) : ∃ node', layout.node? place = some node' := by
  cases leads with
  | arrived => exact ⟨node, found⟩
  | onward took | follow took =>
    obtain ⟨access, here⟩ := directory_of_turn took
    exact ⟨_, here⟩

theorem Leads.deterministic {spent' : Nat} {goal' : Location}
    (leads : layout.Leads place steps spent goal) (leads' : layout.Leads place steps spent' goal') :
    spent = spent' ∧ goal = goal' := by
  have here := leads.walkLinks spent
  have there := leads'.walkLinks spent'
  rw [leads'.walkLinks, if_pos (Nat.le_refl _)] at here
  rw [leads.walkLinks, if_pos (Nat.le_refl _)] at there
  split at here
  · split at there
    · cases here
      exact ⟨by omega, rfl⟩
    · contradiction
  · contradiction

theorem Leads.split {first second : List Step}
    (leads : layout.Leads place (first ++ second) spent goal) :
    ∃ between before after, layout.Leads place first before between ∧
      layout.Leads between second after goal ∧ spent = before + after := by
  generalize whole : first ++ second = steps at leads
  -- The steps of a target come before those that remain of the first part.
  induction leads generalizing first with
  | arrived =>
    obtain ⟨rfl, rfl⟩ := List.append_eq_nil_iff.1 whole
    exact ⟨_, 0, 0, .arrived, .arrived, rfl⟩
  | onward took others ih =>
    cases first with
    | nil => exact ⟨_, 0, _, .arrived, whole ▸ Leads.onward took others, by rw [Nat.zero_add]⟩
    | cons step first =>
      obtain ⟨rfl, rfl⟩ := List.cons.inj whole
      obtain ⟨between, before, after, leads, rest, rfl⟩ := ih rfl
      exact ⟨between, before, after, .onward took leads, rest, rfl⟩
  | follow took others ih =>
    cases first with
    | nil => exact ⟨_, 0, _, .arrived, whole ▸ Leads.follow took others, by rw [Nat.zero_add]⟩
    | cons step first =>
      obtain ⟨rfl, rfl⟩ := List.cons.inj whole
      obtain ⟨between, before, after, leads, rest, rfl⟩ := ih (List.append_assoc _ _ _)
      exact ⟨between, before + 1, after, .follow took leads, rest, by omega⟩

theorem Leads.entered {path : Path} (leads : layout.Leads place path.steps spent goal) :
    layout.Leads place path.entered spent goal := by
  rcases path.steps_eq_entered with same | same
  · exact same ▸ leads
  · obtain ⟨between, before, after, leads, settling, rfl⟩ := (same ▸ leads).split
    cases settling with
    | onward took arrived =>
      cases arrived
      cases eq_onward_of_settle took
      exact leads
    | follow took => cases eq_onward_of_settle took

/-- Who may follow fewer links comes to the same, or meets one link too many. -/
theorem walkLinks_of_le (layout : Layout) {fewer : Nat} (few : fewer ≤ links) (ending : Ending)
    (place : Location) (steps : List Step) :
    layout.walkLinks ending fewer place steps = layout.walkLinks ending links place steps ∨
      layout.walkLinks ending fewer place steps = .error .tooManyLinks := by
  induction links, place, steps using walkLinks_induction generalizing fewer with
  | nil links place => simp
  | cons links place step steps onward followed =>
    rw [walkLinks_cons, walkLinks_cons]
    cases layout.turn place step with
    | error cause => exact .inl rfl
    | ok turned =>
      cases turned with
      | onward next => exact onward next few
      | link name target =>
        by_cases kept : steps.isEmpty ∧ ending = .kept
        · simp [kept]
        · simp only [kept, if_false]
          cases fewer with
          | zero => exact .inr rfl
          | succ fewer =>
            cases links with
            | zero => contradiction
            | succ links =>
              exact followed links (Nat.lt_succ_self _) _ _ (Nat.le_of_succ_le_succ few)

/-- Whether a link at the end is kept makes a difference only where there is one. -/
theorem walkLinks_kept_eq_or_link (layout : Layout) (links : Nat) (place : Location)
    (steps : List Step) :
    layout.walkLinks .kept links place steps = layout.walkLinks .followed links place steps ∨
      ∃ link target, layout.walkLinks .kept links place steps = .ok link ∧
        layout.node? link = some (.link target) := by
  induction links, place, steps using walkLinks_induction with
  | nil links place => simp
  | cons links place step steps onward followed =>
    rw [walkLinks_cons, walkLinks_cons]
    cases took : layout.turn place step with
    | error cause => exact .inl rfl
    | ok turned =>
      cases turned with
      | onward next => exact onward next
      | link name target =>
        by_cases last : steps.isEmpty
        · exact .inr ⟨name :: place, target, by simp [last], (link_of_turn took).2⟩
        · simp only [last, Bool.false_eq_true, false_and, if_false]
          cases links with
          | zero => exact .inl rfl
          | succ links => exact followed links (Nat.lt_succ_self _) _ _

/-! ## Look-ups in a directory -/

/-- The path leads to a place, on the way to which so many links are followed. -/
structure Reaches (layout : Layout) (path : Path) (spent : Nat) (place : Location) : Prop where
  nonempty : path.bytes ≠ []
  noZero : 0 ∉ path.bytes
  few : spent ≤ linkLimit
  leads : layout.Leads (start path layout.workingDirectory) path.steps spent place

variable {path : Path} {name : Name} {node : Node}

def nodeAt (layout : Layout) (located : Except AccessError Location) :
    Except AccessError (Location × Node) := do
  let place ← located
  match layout.node? place with
  | none => throw .notFound
  | some node => return (place, node)

theorem find_eq (layout : Layout) (ending : Ending) (path : Path) :
    layout.find ending path = layout.nodeAt (layout.locate ending path) := rfl

@[simp] theorem nodeAt_error (layout : Layout) (cause : AccessError) :
    layout.nodeAt (.error cause) = .error cause := rfl

theorem nodeAt_ok (layout : Layout) (place : Location) :
    layout.nodeAt (.ok place) =
      match layout.node? place with
      | none => .error .notFound
      | some node => .ok (place, node) := rfl

theorem nodeAt_eq_ok_iff {located : Except AccessError Location} :
    layout.nodeAt located = .ok (place, node) ↔
      located = .ok place ∧ layout.node? place = some node := by
  cases located with
  | error cause => simp
  | ok place' =>
    rw [nodeAt_ok]
    cases here : layout.node? place' with
    | none => simp only [reduceCtorEq, Except.ok.injEq, false_iff, not_and]; grind
    | some node' => simp only [Except.ok.injEq, Prod.mk.injEq]; grind

theorem find_followed_eq_ok_iff :
    layout.find .followed path = .ok (place, node) ↔
      path.bytes.length ≤ pathLimit ∧ layout.node? place = some node ∧
        ∃ spent, layout.Reaches path spent place := by
  rw [find_eq, nodeAt_eq_ok_iff]
  constructor
  · rintro ⟨located, here⟩
    unfold locate at located
    repeat' split at located
    all_goals first | contradiction | skip
    next noZero nonempty short =>
      obtain ⟨spent, few, leads⟩ := exists_leads located
      exact ⟨by omega, here, spent, by simpa using nonempty, by simpa using noZero, few, leads⟩
  · rintro ⟨short, here, spent, nonempty, noZero, few, leads⟩
    refine ⟨?_, here⟩
    rw [locate, leads.walkLinks, if_pos few]
    simp [noZero, nonempty, Nat.not_lt.2 short]

theorem find_kept_eq_or_link (layout : Layout) (path : Path) :
    layout.find .kept path = layout.find .followed path ∨
      ∃ link target, layout.find .kept path = .ok (link, .link target) := by
  have located : layout.locate .kept path = layout.locate .followed path ∨
      ∃ link target, layout.locate .kept path = .ok link ∧
        layout.node? link = some (.link target) := by
    unfold locate
    repeat' split
    all_goals first | exact .inl rfl | exact layout.walkLinks_kept_eq_or_link _ _ _
  rw [find_eq, find_eq]
  rcases located with same | ⟨link, target, kept, held⟩
  · exact .inl (by rw [same])
  · exact .inr ⟨link, target, by rw [kept, nodeAt_ok, held]⟩

theorem Reaches.locate_join (reaches : layout.Reaches path spent place)
    (proper : Path.IsEntryName name) (ending : Ending) :
    layout.locate ending (path.join name) =
      if (path.join name).bytes.length > pathLimit then .error .nameTooLong
      else layout.walkLinks ending (linkLimit - spent) place [.enter name] := by
  have noZero : 0 ∉ (path.join name).bytes := by
    rw [Path.zero_mem_join_iff proper reaches.nonempty]
    exact reaches.noZero
  have nonempty : (path.join name).bytes ≠ [] := by
    obtain ⟨before, -, joined⟩ := Path.join_of_noSlash proper.noSlash reaches.nonempty
    simp [joined]
  rw [locate, Path.steps_join proper reaches.nonempty,
    Path.start_join proper.noSlash reaches.nonempty,
    reaches.leads.entered.walkLinks_append _ (.inl (by simp)), if_pos reaches.few]
  simp [noZero, nonempty]

theorem Reaches.of_join {more : Nat} (reaches : layout.Reaches path spent place)
    (proper : Path.IsEntryName name) (further : layout.Reaches (path.join name) more goal) :
    ∃ extra, more = spent + extra ∧ layout.Leads place [.enter name] extra goal := by
  have leads := further.leads
  rw [Path.steps_join proper reaches.nonempty, Path.start_join proper.noSlash reaches.nonempty]
    at leads
  obtain ⟨between, before, after, first, second, rfl⟩ := leads.split
  obtain ⟨rfl, rfl⟩ := reaches.leads.entered.deterministic first
  exact ⟨after, rfl, second⟩

theorem turn_enter {access : Access} (proper : Path.IsEntryName name)
    (here : layout.node? place = some (.directory access)) :
    layout.turn place (.enter name) = .ok (.into name place (layout.node? (name :: place))) ∨
      ∃ cause, cause ≠ .notFound ∧ layout.turn place (.enter name) = .error cause := by
  simp only [turn, here, proper.notHere, proper.notParent]
  by_cases searched : access.search
  · by_cases long : name.length > nameLimit
    · exact .inr ⟨.nameTooLong, by decide, by simp [searched, long]⟩
    · exact .inl (by simp [searched, long])
  · exact .inr ⟨.permissionDenied, by decide, by simp [searched]⟩

end Layout

end BrokenLinks
