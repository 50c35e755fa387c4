import BrokenLinks.Proofs.FileTree.Membership
import BrokenLinks.Proofs.FileTree.Passage

/-! Layouts with symbolic links added to them.

No look-up of something that was there before meets a link whose name no target mentions. So what
could be found is found where it was, and a link that led nowhere leads nowhere still. -/

set_option autoImplicit false

namespace BrokenLinks

namespace Layout

variable {layout : Layout} {place : Location} {node : Node}

def HasDirectory (layout : Layout) (place : Location) : Prop :=
  ∃ access, layout.node? place = some (.directory access)

instance (layout : Layout) : DecidablePred layout.HasDirectory := fun place =>
  match found : layout.node? place with
  | some (.directory access) => .isTrue ⟨access, found⟩
  | some (.file _ _) | some (.link _) | some .device | none =>
    .isFalse fun ⟨access, directory⟩ => by simp [found] at directory

/-- Every entry has a name of its own in a directory. -/
structure WellFormed (layout : Layout) : Prop where
  named : ∀ entry ∈ layout.entries, ∀ name ∈ entry.1, Path.IsEntryName name
  nested : ∀ entry ∈ layout.entries, layout.HasDirectory entry.1.tail

end Layout

structure AddedLink where
  directory : Location
  name : Name
  target : Path

namespace AddedLink

def place (link : AddedLink) : Location :=
  link.name :: link.directory

def entry (link : AddedLink) : Location × Node :=
  (link.place, .link link.target)

end AddedLink

/-- The second layout is the first with links added under new names, of which none is a component
of a target in the first. -/
structure Layout.Gains (layout : Layout) (links : List AddedLink) (extended : Layout) : Prop where
  entries : extended.entries.Perm (links.map AddedLink.entry ++ layout.entries)
  workingDirectory : extended.workingDirectory = layout.workingDirectory
  unmentioned : ∀ link ∈ links, ∀ entry ∈ layout.entries, ∀ target ∈ entry.2.target?,
    link.name ∉ target.pieces
  wellFormed : extended.WellFormed

namespace Layout

def withLinks (layout : Layout) (links : List AddedLink)
    (new : ((links.map AddedLink.entry ++ layout.entries).map Prod.fst).Nodup) : Layout where
  entries := links.map AddedLink.entry ++ layout.entries
  workingDirectory := layout.workingDirectory
  distinct := new

theorem gains_withLinks {layout : Layout} {links : List AddedLink}
    {new : ((links.map AddedLink.entry ++ layout.entries).map Prod.fst).Nodup}
    (unmentioned : ∀ link ∈ links, ∀ entry ∈ layout.entries, ∀ target ∈ entry.2.target?,
      link.name ∉ target.pieces)
    (wellFormed : (layout.withLinks links new).WellFormed) :
    layout.Gains links (layout.withLinks links new) :=
  ⟨.refl _, rfl, unmentioned, wellFormed⟩

end Layout

namespace Layout.Gains

open Layout

variable {layout extended : Layout} {links : List AddedLink} {link : AddedLink}
  {place goal : Location} {node child : Node} {name : Name} {path : Path} {step : Step}
  {steps : List Step} {spent : Nat}

/-! ## What is where -/

theorem mem_entries_iff (gains : layout.Gains links extended) {entry : Location × Node} :
    entry ∈ extended.entries ↔ (∃ link ∈ links, link.entry = entry) ∨ entry ∈ layout.entries := by
  rw [gains.entries.mem_iff, List.mem_append, List.mem_map]

theorem node?_of_some (gains : layout.Gains links extended)
    (found : layout.node? place = some node) :
    extended.node? place = some node :=
  node?_eq_some_iff.2 (gains.mem_entries_iff.2 (.inr (node?_eq_some_iff.1 found)))

theorem node?_link (gains : layout.Gains links extended) (added : link ∈ links) :
    extended.node? link.place = some (.link link.target) :=
  node?_eq_some_iff.2 (gains.mem_entries_iff.2 (.inl ⟨link, added, rfl⟩))

theorem node?_place (gains : layout.Gains links extended) (added : link ∈ links) :
    layout.node? link.place = none := by
  have distinct := (gains.entries.map Prod.fst).nodup_iff.1 extended.distinct
  rw [List.map_append, List.nodup_append] at distinct
  cases found : layout.node? link.place with
  | none => rfl
  | some node =>
    have old := List.mem_map_of_mem (f := Prod.fst) (node?_eq_some_iff.1 found)
    have new := List.mem_map_of_mem (f := Prod.fst)
      (List.mem_map_of_mem (f := AddedLink.entry) added)
    exact absurd rfl (distinct.2.2 _ new _ old)

theorem node?_eq (gains : layout.Gains links extended) (old : ∀ link ∈ links, place ≠ link.place) :
    extended.node? place = layout.node? place := by
  refine Option.ext fun node => ?_
  rw [node?_eq_some_iff, node?_eq_some_iff, gains.mem_entries_iff, or_iff_right]
  rintro ⟨link, added, same⟩
  exact old link added (congrArg Prod.fst same).symm

theorem node?_eq_of_some (gains : layout.Gains links extended)
    (found : layout.node? place = some node) : extended.node? place = layout.node? place :=
  (gains.node?_of_some found).trans found.symm

theorem isEntryName (gains : layout.Gains links extended)
    (found : extended.node? (name :: place) = some node) : Path.IsEntryName name :=
  gains.wellFormed.named _ (node?_eq_some_iff.1 found) name (by simp)

theorem node?_tail (gains : layout.Gains links extended)
    (found : extended.node? place = some node) :
    extended.node? place.tail = layout.node? place.tail := by
  obtain ⟨access, directory⟩ := gains.wellFormed.nested _ (node?_eq_some_iff.1 found)
  refine gains.node?_eq fun link added same => ?_
  rw [show (place, node).1.tail = link.place from same, gains.node?_link added] at directory
  cases directory

/-! ## Look-ups -/

theorem turn_eq (here : extended.node? place = layout.node? place)
    (there : ∀ name, step = .enter name →
      extended.node? (name :: place) = layout.node? (name :: place)) :
    extended.turn place step = layout.turn place step := by
  cases found : layout.node? place with
  | none => simp only [turn, here, found]
  | some node =>
    cases node with
    | file _ _ | link _ | device => simp only [turn, here, found]
    | directory access =>
      cases step with
      | settle => simp only [turn, here, found]
      | enter name => simp only [turn, here, found, there name rfl]

theorem nodeAt_walkLinks_cons (gains : layout.Gains links extended) {ending : Ending} {count : Nat}
    (here : extended.node? place = layout.node? place)
    (there : ∀ name, step = .enter name →
      extended.node? (name :: place) = layout.node? (name :: place))
    (onward : ∀ next, extended.node? next = layout.node? next →
      extended.nodeAt (extended.walkLinks ending count next steps) =
        layout.nodeAt (layout.walkLinks ending count next steps))
    (followed : ∀ fewer < count, ∀ (start : Location) (target : Path),
      extended.node? start = layout.node? start →
      (∀ link ∈ links, Step.enter link.name ∉ target.steps) →
      extended.nodeAt (extended.walkLinks ending fewer start (target.steps ++ steps)) =
        layout.nodeAt (layout.walkLinks ending fewer start (target.steps ++ steps))) :
    extended.nodeAt (extended.walkLinks ending count place (step :: steps)) =
      layout.nodeAt (layout.walkLinks ending count place (step :: steps)) := by
  rw [walkLinks_cons, walkLinks_cons, turn_eq here there]
  cases took : layout.turn place step with
  | error cause => rfl
  | ok turned =>
    obtain ⟨access, directory⟩ := directory_of_turn took
    cases turned with
    | onward next =>
      refine onward next ?_
      rcases next_of_turn took with rfl | rfl | ⟨name, entering, rfl⟩
      · exact here
      · exact gains.node?_tail (gains.node?_of_some directory)
      · exact there name entering
    | link name target =>
      obtain ⟨entering, found⟩ := link_of_turn took
      by_cases kept : steps.isEmpty ∧ ending = .kept
      · simp only [kept, and_self, if_true]
        rw [nodeAt_ok, nodeAt_ok, there name entering]
      · simp only [kept, if_false]
        cases count with
        | zero => rfl
        | succ count =>
          refine followed count (Nat.lt_succ_self _) _ target ?_ fun link added mentioned => ?_
          · unfold start
            split
            · exact gains.node?_eq fun link _ => (List.cons_ne_nil _ _).symm
            · exact here
          · exact gains.unmentioned link added _ (node?_eq_some_iff.1 found) target rfl
              (Path.mem_pieces_of_mem_steps mentioned)

/-- Steps that enter no place by the name of a link come to the same. -/
theorem nodeAt_walkLinks (gains : layout.Gains links extended) (ending : Ending) (count : Nat)
    (here : extended.node? place = layout.node? place)
    (avoided : ∀ link ∈ links, Step.enter link.name ∉ steps) :
    extended.nodeAt (extended.walkLinks ending count place steps) =
      layout.nodeAt (layout.walkLinks ending count place steps) := by
  induction count, place, steps using walkLinks_induction with
  | nil count place => rw [walkLinks_nil, walkLinks_nil, nodeAt_ok, nodeAt_ok, here]
  | cons count place step steps onward followed =>
    have others : ∀ link ∈ links, Step.enter link.name ∉ steps := fun link added mentioned =>
      avoided link added (List.mem_cons_of_mem _ mentioned)
    refine gains.nodeAt_walkLinks_cons here (fun name entering => ?_)
      (fun next here => onward next here others) (fun less few start target here unmentioned => ?_)
    · refine gains.node?_eq fun link added same => avoided link added ?_
      rw [entering, (List.cons.inj same).1]
      exact List.mem_cons_self
    · refine followed less few _ _ here fun link added mentioned => ?_
      exact (List.mem_append.1 mentioned).elim (unmentioned link added) (others link added)

theorem turn_eq_of_ok (gains : layout.Gains links extended) {turned : Turn}
    (took : layout.turn place step = .ok turned)
    (there : ∀ next, turned = .onward next → ∃ node, layout.node? next = some node) :
    extended.turn place step = .ok turned := by
  obtain ⟨access, directory⟩ := directory_of_turn took
  refine (turn_eq (gains.node?_eq_of_some directory) fun name entering => ?_).trans took
  refine gains.node?_eq fun link added same => ?_
  -- Where the link is now, the step went on to nothing.
  have new : layout.node? (name :: place) = none := same ▸ gains.node?_place added
  have proper : Path.IsEntryName name := gains.isEntryName (same ▸ gains.node?_link added)
  rcases turn_enter proper directory with met | ⟨cause, -, failed⟩
  · rw [← entering, took, new] at met
    obtain ⟨node, found⟩ := there _ (Except.ok.inj met)
    rw [new] at found
    contradiction
  · rw [← entering, took] at failed
    contradiction

theorem leads (gains : layout.Gains links extended) (leads : layout.Leads place steps spent goal)
    (found : layout.node? goal = some node) : extended.Leads place steps spent goal := by
  induction leads with
  | arrived => exact .arrived
  | onward took others ih =>
    refine .onward (gains.turn_eq_of_ok took fun next onward => ?_) (ih found)
    cases onward
    exact others.exists_node found
  | follow took others ih =>
    exact .follow (gains.turn_eq_of_ok took fun next => Turn.noConfusion) (ih found)

theorem reaches (gains : layout.Gains links extended) (reaches : layout.Reaches path spent place)
    (found : layout.node? place = some node) : extended.Reaches path spent place where
  nonempty := reaches.nonempty
  noZero := reaches.noZero
  few := reaches.few
  leads := gains.workingDirectory ▸ gains.leads reaches.leads found

theorem find_followed (gains : layout.Gains links extended)
    (found : layout.find .followed path = .ok (place, node)) :
    extended.find .followed path = .ok (place, node) := by
  obtain ⟨short, here, spent, reaches⟩ := find_followed_eq_ok_iff.1 found
  exact find_followed_eq_ok_iff.2
    ⟨short, gains.node?_of_some here, spent, gains.reaches reaches here⟩

theorem find_join (gains : layout.Gains links extended) (reaches : layout.Reaches path spent place)
    (here : layout.node? place = some node) (held : layout.node? (name :: place) = some child)
    (ending : Ending) :
    extended.find ending (path.join name) = layout.find ending (path.join name) := by
  have proper : Path.IsEntryName name := gains.isEntryName (gains.node?_of_some held)
  rw [find_eq, find_eq, reaches.locate_join proper, (gains.reaches reaches here).locate_join proper]
  by_cases long : (path.join name).bytes.length > pathLimit
  · rw [if_pos long, if_pos long]
    rfl
  rw [if_neg long, if_neg long]
  refine gains.nodeAt_walkLinks_cons (gains.node?_eq_of_some here) (fun name' entering => ?_)
    (fun next here => ?_) (fun less few start target here unmentioned => ?_)
  · cases entering
    exact gains.node?_eq_of_some held
  · exact gains.nodeAt_walkLinks _ _ here (by simp)
  · exact gains.nodeAt_walkLinks _ _ here (by simpa using unmentioned)

end Layout.Gains

end BrokenLinks
