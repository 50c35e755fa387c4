import BrokenLinks.FileTree.Edit
import BrokenLinks.Proofs.FileTree.Dangling
import BrokenLinks.Proofs.FileTree.Shown

/-! What the entries of a directory are, once links are followed.

A link stands for whatever its target leads to from the directory, over any number of further links.
A directory without failures is listed in full: every entry is met as what it is or leads to, and
only links to nothing are left out. -/

set_option autoImplicit false

namespace BrokenLinks

namespace Layout

/-- A layout that a system can hold, in which everyone may do everything. -/
structure Accessible (layout : Layout) : Prop extends layout.WellFormed where
  short : ∀ entry ∈ layout.entries, ∀ name ∈ entry.1, name.length ≤ nameLimit
  granted : ∀ entry ∈ layout.entries, entry.2.withAccess .unrestricted = entry.2

/-- Under the name, the directory has the node itself or a link that leads to it. -/
inductive Provides (layout : Layout) (directory : Location) (name : Name) :
    Location → Node → Prop where
  | itself {node : Node} (held : layout.node? (name :: directory) = some node)
      (notLink : node.target? = none) : Provides layout directory name (name :: directory) node
  | link {target : Path} {spent : Nat} {goal : Location} {node : Node}
      (held : layout.node? (name :: directory) = some (.link target))
      (leads : layout.Leads (start target directory) target.steps spent goal)
      (there : layout.node? goal = some node) : Provides layout directory name goal node

variable {layout : Layout} {path : Path} {place goal : Location} {name : Name} {node child : Node}
  {access : Access} {spent : Nat} {target : Path} {kind : EntryKind}

theorem WellFormed.isEntryName (wellFormed : layout.WellFormed)
    (held : layout.node? (name :: place) = some child) : Path.IsEntryName name :=
  wellFormed.named _ (node?_eq_some_iff.1 held) name List.mem_cons_self

theorem Provides.isEntryName (provides : layout.Provides place name goal node)
    (wellFormed : layout.WellFormed) : Path.IsEntryName name := by
  cases provides with
  | itself held | link held => exact wellFormed.isEntryName held

/-! ## Directories that anyone may list and search -/

theorem Accessible.eq_unrestricted (accessible : layout.Accessible)
    (here : layout.node? place = some (.directory access)) : access = .unrestricted := by
  simpa [Node.withAccess, eq_comm] using accessible.granted _ (node?_eq_some_iff.1 here)

theorem Accessible.openDirectory (accessible : layout.Accessible)
    (found : layout.find .followed path = .ok (place, .directory access)) :
    layout.openDirectory path = .ok place := by
  have here := (find_followed_eq_ok_iff.1 found).2.1
  rw [openDirectory_of_find found, accessible.eq_unrestricted here]
  rfl

theorem Accessible.turn_enter (accessible : layout.Accessible)
    (here : layout.node? place = some (.directory access))
    (held : layout.node? (name :: place) = some child) :
    layout.turn place (.enter name) = .ok (.into name place (some child)) := by
  have proper := accessible.isEntryName held
  have short : ¬name.length > nameLimit := Nat.not_lt.2
    (accessible.short _ (node?_eq_some_iff.1 held) name List.mem_cons_self)
  simp [turn, here, accessible.eq_unrestricted here, Access.unrestricted, proper.notHere,
    proper.notParent, short, held]

/-! ## Links of a directory -/

theorem Reaches.provides_of_find (reaches : layout.Reaches path spent place)
    (here : layout.node? place = some (.directory access)) (proper : Path.IsEntryName name)
    (held : layout.node? (name :: place) = some (.link target))
    (found : layout.find .followed (path.join name) = .ok (goal, node)) :
    layout.Provides place name goal node := by
  obtain ⟨-, there, more, further⟩ := find_followed_eq_ok_iff.1 found
  obtain ⟨extra, -, leads⟩ := reaches.of_join proper further
  have turned : ∀ {turned : Turn}, layout.turn place (.enter name) = .ok turned →
      turned = .link name target := by
    intro turned took
    rcases Layout.turn_enter proper here with met | ⟨cause, -, failed⟩
    · rw [met, held] at took
      exact (Except.ok.inj took).symm
    · rw [failed] at took
      contradiction
  cases leads with
  | onward took => cases turned took
  | follow took others =>
    cases turned took
    exact .link held (by simpa using others) there

theorem Reaches.find_of_leads (reaches : layout.Reaches path spent place)
    (here : layout.node? place = some (.directory access)) (proper : Path.IsEntryName name)
    (held : layout.node? (name :: place) = some (.link target)) {more : Nat}
    (leads : layout.Leads (start target place) target.steps more goal)
    (there : layout.node? goal = some node) :
    layout.find .followed (path.join name) = .ok (goal, node) ∨
      ∃ cause, cause ≠ .notFound ∧ layout.find .followed (path.join name) = .error cause := by
  rw [find_eq, reaches.locate_join proper]
  by_cases long : (path.join name).bytes.length > pathLimit
  · exact .inr ⟨.nameTooLong, by decide, by simp [long]⟩
  rw [if_neg long]
  rcases Layout.turn_enter proper here with met | ⟨cause, other, failed⟩
  · rw [held] at met
    have whole : layout.Leads place [.enter name] (more + 1) goal :=
      .follow met (by simpa using leads)
    rw [whole.walkLinks]
    split
    · exact .inl (by rw [nodeAt_ok, there])
    · exact .inr ⟨.tooManyLinks, by decide, rfl⟩
  · exact .inr ⟨cause, other, by rw [walkLinks_cons, failed]; rfl⟩

/-! ## What a listing shows -/

/-- In a listing without failures, no limit is met on the way along a link. -/
theorem Lists.find_link (lists : layout.Lists path) (wellFormed : layout.WellFormed)
    (opened : layout.openDirectory path = .ok place)
    (held : layout.node? (name :: place) = some (.link target))
    (leads : layout.Leads (start target place) target.steps spent goal)
    (there : layout.node? goal = some node) :
    layout.find .followed (path.join name) = .ok (goal, node) := by
  obtain ⟨_, access, reaches, here⟩ := exists_reaches_of_openDirectory opened
  have found := reaches.find_of_leads here (wellFormed.isEntryName held) held leads there
  refine found.resolve_right ?_
  rintro ⟨cause, other, failed⟩
  have examined : layout.examine path place name (.link target) ∈ layout.findings path := by
    rw [findings_of_openDirectory opened]
    exact List.mem_map_of_mem (mem_children.2 held)
  have reported : .failed (.unreadable (path.join name) cause) ∈ layout.findings path := by
    simpa [examine, examineLink, failed, unreachable, other] using examined
  exact not_lists_of_failed reported lists

theorem Lists.shows_iff (lists : layout.Lists path) (wellFormed : layout.WellFormed)
    (opened : layout.openDirectory path = .ok place) :
    layout.Shows path name kind ↔
      ∃ goal node, layout.Provides place name goal node ∧ node.kind = kind := by
  obtain ⟨spent, access, reaches, here⟩ := exists_reaches_of_openDirectory opened
  constructor
  · intro shown
    cases shown with
    | itself opened' held notLink sort =>
      cases opened.symm.trans opened'
      exact ⟨_, _, .itself held notLink, sort⟩
    | link opened' held found sort =>
      cases opened.symm.trans opened'
      have proper := wellFormed.isEntryName held
      exact ⟨_, _, reaches.provides_of_find here proper held found, sort⟩
  · rintro ⟨goal, node, provides, sort⟩
    cases provides with
    | itself held notLink => exact .itself opened held notLink sort
    | link held leads there =>
      exact .link opened held (lists.find_link wellFormed opened held leads there) sort

theorem Accessible.find_join (accessible : layout.Accessible)
    (opened : layout.openDirectory path = .ok place) (lists : layout.Lists path)
    (short : (path.join name).bytes.length ≤ pathLimit)
    (provides : layout.Provides place name goal node) :
    layout.find .followed (path.join name) = .ok (goal, node) := by
  obtain ⟨spent, access, reaches, here⟩ := exists_reaches_of_openDirectory opened
  have proper := provides.isEntryName accessible.toWellFormed
  cases provides with
  | itself held notLink =>
    have stays : Turn.into name place (some node) = .onward (name :: place) := by
      cases node with
      | link target => contradiction
      | file _ _ | directory _ | device => rfl
    rw [find_eq, reaches.locate_join proper, if_neg (Nat.not_lt.2 short), walkLinks_cons,
      accessible.turn_enter here held, stays]
    simp [nodeAt_ok, held]
  | link held leads there => exact lists.find_link accessible.toWellFormed opened held leads there

end Layout

end BrokenLinks
