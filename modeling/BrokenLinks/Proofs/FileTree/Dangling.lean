import BrokenLinks.Proofs.FileTree.Extension
import BrokenLinks.Proofs.FileTree.Order

/-! Listings of directories to which symbolic links have been added.

A link that leads to nothing is passed over, so a listing brings what it brought without it. A link
that leads back to its directory, or nowhere for another reason, fails the listing. -/

set_option autoImplicit false

namespace BrokenLinks

namespace AddedLink

/-- By this path to its directory, the link leads to nothing. -/
def Dangles (link : AddedLink) (layout : Layout) (path : Path) : Prop :=
  layout.find .followed (path.join link.name) = .error .notFound

/-- By this path to its directory, the link leads back there, or nowhere though something is in the
way. -/
def Obstructs (link : AddedLink) (layout : Layout) (path : Path) : Prop :=
  (∃ node, layout.find .followed (path.join link.name) = .ok (link.directory, node)) ∨
    ∃ cause, cause ≠ .notFound ∧ layout.find .followed (path.join link.name) = .error cause

end AddedLink

namespace Layout

variable {layout : Layout} {path : Path} {place : Location} {name : Name} {access : Access}
  {spent more : Nat}

/-! ## Entries of a directory -/

theorem exists_reaches_of_openDirectory (opened : layout.openDirectory path = .ok place) :
    ∃ spent access, layout.Reaches path spent place ∧
      layout.node? place = some (.directory access) := by
  obtain ⟨access, found, -⟩ := openDirectory_eq_ok_iff.1 opened
  obtain ⟨-, here, spent, reaches⟩ := find_followed_eq_ok_iff.1 found
  exact ⟨spent, access, reaches, here⟩

theorem Reaches.find_kept (reaches : layout.Reaches path spent place)
    (here : layout.node? place = some (.directory access)) (proper : Path.IsEntryName name)
    {target : Path} (held : layout.node? (name :: place) = some (.link target))
    (dangles : layout.find .followed (path.join name) = .error .notFound) :
    layout.find .kept (path.join name) = .ok (name :: place, .link target) := by
  rw [find_eq, reaches.locate_join proper] at dangles ⊢
  by_cases long : (path.join name).bytes.length > pathLimit
  · simp [long] at dangles
  rw [if_neg long, walkLinks_cons] at dangles ⊢
  rcases turn_enter proper here with met | ⟨cause, other, failed⟩
  · simp [met, held, Turn.into, nodeAt_ok]
  · simp [failed, other] at dangles

theorem Reaches.find_directory (reaches : layout.Reaches path spent place)
    (here : layout.node? place = some (.directory access)) (proper : Path.IsEntryName name)
    {access' : Access} (held : layout.node? (name :: place) = some (.directory access')) :
    (∃ cause, ∀ ending, layout.find ending (path.join name) = .error cause) ∨
      ∀ ending, layout.find ending (path.join name) = .ok (name :: place, .directory access') := by
  simp only [find_eq, reaches.locate_join proper]
  by_cases long : (path.join name).bytes.length > pathLimit
  · exact .inl ⟨.nameTooLong, by simp [long]⟩
  simp only [long, if_false, walkLinks_cons]
  rcases turn_enter proper here with met | ⟨cause, -, failed⟩
  · exact .inr (by simp [met, held, Turn.into, nodeAt_ok])
  · exact .inl ⟨cause, by simp [failed]⟩

theorem Reaches.openDirectory_join (reaches : layout.Reaches path spent place)
    (here : layout.node? place = some (.directory access)) (proper : Path.IsEntryName name)
    {access' : Access} (held : layout.node? (name :: place) = some (.directory access'))
    (lists : layout.Lists (path.join name)) :
    layout.openDirectory (path.join name) = .ok (name :: place) := by
  rcases reaches.find_directory here proper held with ⟨cause, failed⟩ | found
  · have complete := lists.failure?_eq_none
    simp [findings, unreachable, isLink, failed, Finding.failure?] at complete
  · exact lists.openDirectory (found .followed)

theorem openDirectory_of_examineLink {above : List (Path × Location)} {name' : Name}
    (met : layout.examineLink above name path = .entry name' .directory) :
    name' = name ∧ ∃ place, layout.openDirectory path = .ok place := by
  unfold examineLink unreachable at met
  repeat' split at met
  all_goals simp only [reduceCtorEq, Finding.entry.injEq, and_true] at met
  case h_2 opened _ _ => exact ⟨met.symm, _, opened⟩
  case h_3 node _ notDirectory => cases node <;> simp_all [Node.kind]

theorem Reaches.spent_eq (reaches : layout.Reaches path spent place)
    (here : layout.node? place = some (.directory access)) (proper : Path.IsEntryName name)
    {access' : Access} (held : layout.node? (name :: place) = some (.directory access'))
    {goal : Location} (further : layout.Reaches (path.join name) more goal) : more = spent := by
  -- No link is followed to a directory that is an entry itself.
  obtain ⟨extra, rfl, leads⟩ := reaches.of_join proper further
  rcases turn_enter proper here with met | ⟨cause, -, failed⟩
  · rw [held] at met
    cases leads with
    | onward took arrived =>
      cases arrived
      rfl
    | follow took =>
      rw [met] at took
      cases took
  · cases leads with
    | onward took | follow took =>
      rw [failed] at took
      cases took

end Layout

/-- On a path that follows more links to the same directory, an obstacle remains one. -/
theorem AddedLink.Obstructs.of_farther {layout : Layout} {path path' : Path} {link : AddedLink}
    {spent more : Nat} (near : layout.Reaches path spent link.directory)
    (far : layout.Reaches path' more link.directory) (farther : spent ≤ more)
    (proper : Path.IsEntryName link.name)
    (short : (path.join link.name).bytes.length ≤ Layout.pathLimit)
    (obstructs : link.Obstructs layout path) : link.Obstructs layout path' := by
  unfold Obstructs at obstructs ⊢
  rw [Layout.find_eq, near.locate_join proper, if_neg (Nat.not_lt.2 short)] at obstructs
  rw [Layout.find_eq, far.locate_join proper]
  by_cases long : (path'.join link.name).bytes.length > Layout.pathLimit
  · exact .inr ⟨.nameTooLong, by decide, by simp [long]⟩
  rw [if_neg long]
  rcases layout.walkLinks_of_le (Nat.sub_le_sub_left farther Layout.linkLimit) .followed
      link.directory [.enter link.name] with same | exhausted
  · rw [same]
    exact obstructs
  · exact .inr ⟨.tooManyLinks, by decide, by rw [exhausted]; rfl⟩

namespace Layout.Gains

variable {layout extended : Layout} {links : List AddedLink} {link : AddedLink} {path : Path}
  {place : Location} {name : Name} {child node : Node} {access : Access} {spent : Nat}

theorem openDirectory (gains : layout.Gains links extended)
    (opened : layout.openDirectory path = .ok place) :
    extended.openDirectory path = .ok place := by
  obtain ⟨access, found, readable⟩ := openDirectory_eq_ok_iff.1 opened
  exact openDirectory_eq_ok_iff.2 ⟨access, gains.find_followed found, readable⟩

theorem children (gains : layout.Gains links extended) (place : Location) :
    (extended.children place).filter (fun child => (layout.node? (child.1 :: place)).isSome) =
      layout.children place := by
  have asymmetric (first second : Name × Node) (less : first.1 < second.1)
      (greater : second.1 < first.1) : first = second :=
    absurd greater (List.lt_asymm less)
  refine List.Perm.eq_of_pairwise (fun first second _ _ => asymmetric first second)
    (List.pairwise_map.1 ((children_ascend extended place).sublist (List.filter_sublist.map _)))
    (List.pairwise_map.1 (children_ascend layout place)) ?_
  refine (List.perm_ext_iff_of_nodup ((children_nodup extended place).of_map.filter _)
    (children_nodup layout place).of_map).2 fun ⟨name, node⟩ => ?_
  rw [List.mem_filter, mem_children, mem_children, Option.isSome_iff_exists]
  constructor
  · rintro ⟨new, old, found⟩
    rwa [← gains.node?_eq_of_some found]
  · intro found
    exact ⟨gains.node?_of_some found, node, found⟩

theorem examine (gains : layout.Gains links extended) (reaches : layout.Reaches path spent place)
    (here : layout.node? place = some node) (held : layout.node? (name :: place) = some child) :
    extended.examine path place name child = layout.examine path place name child := by
  have same := gains.find_join reaches here held
  cases child with
  | link target =>
    have opened :
        extended.openDirectory (path.join name) = layout.openDirectory (path.join name) := by
      simp only [Layout.openDirectory, same]
    have linked : extended.isLink (path.join name) = layout.isLink (path.join name) := by
      simp only [isLink, same]
    simp only [Layout.examine, examineLink, unreachable, same, opened, linked]
  | file _ _ | directory _ | device => rfl

theorem examine_dangling (gains : layout.Gains links extended) (added : link ∈ links)
    (opened : layout.openDirectory path = .ok link.directory)
    (dangles : link.Dangles extended path) :
    extended.examine path link.directory link.name (.link link.target) =
      .dangling (path.join link.name) := by
  obtain ⟨spent, access, reaches, here⟩ :=
    exists_reaches_of_openDirectory (gains.openDirectory opened)
  have held : extended.node? (link.name :: link.directory) = some (.link link.target) :=
    gains.node?_link added
  have kept := reaches.find_kept here (gains.isEntryName held) held dangles
  unfold AddedLink.Dangles at dangles
  simp [Layout.examine, examineLink, dangles, unreachable, isLink, kept]

theorem filterMap_findings (gains : layout.Gains links extended)
    (opened : layout.openDirectory path = .ok place)
    (dangling : ∀ link ∈ links, link.directory = place → link.Dangles extended path) {β : Type}
    {look : Finding → Option β} (blind : ∀ link, look (.dangling link) = none) :
    (extended.findings path).filterMap look = (layout.findings path).filterMap look := by
  obtain ⟨spent, access, reaches, here⟩ := exists_reaches_of_openDirectory opened
  rw [findings_of_openDirectory opened, findings_of_openDirectory (gains.openDirectory opened),
    List.filterMap_map, List.filterMap_map, ← gains.children, List.filterMap_filter]
  refine List.filterMap_congr fun ⟨name, child⟩ listed => ?_
  have held := mem_children.1 listed
  cases old : layout.node? (name :: place) with
  | some node =>
    -- An entry that was there before is the same entry.
    have same : child = node := by
      rw [gains.node?_of_some old] at held
      exact (Option.some.inj held).symm
    simp [same, gains.examine reaches here old]
  | none =>
    obtain ⟨link, added, same⟩ | before := gains.mem_entries_iff.1 (node?_eq_some_iff.1 held)
    · obtain ⟨⟨rfl, rfl⟩, rfl⟩ := (by simpa [AddedLink.entry, AddedLink.place] using same :
        (link.name = name ∧ link.directory = place) ∧ Node.link link.target = child)
      simp [gains.examine_dangling added opened (dangling link added rfl), blind]
    · rw [node?_eq_some_iff.2 before] at old
      contradiction

theorem lists (gains : layout.Gains links extended) (opened : layout.openDirectory path = .ok place)
    (dangling : ∀ link ∈ links, link.directory = place → link.Dangles extended path)
    (lists : layout.Lists path) : extended.Lists path :=
  (gains.filterMap_findings opened dangling fun _ => rfl).trans lists

theorem load (gains : layout.Gains links extended) (opened : layout.openDirectory path = .ok place)
    (dangling : ∀ link ∈ links, link.directory = place → link.Dangles extended path)
    {pages : Namespace} (loaded : (Namespace.load layout path).value = .ok pages) :
    (Namespace.load extended path).value = .ok pages := by
  obtain ⟨lists, rfl⟩ := Namespace.load_eq_ok_iff.1 loaded
  refine Namespace.load_eq_ok_iff.2 ⟨gains.lists opened dangling lists, ?_⟩
  rw [gains.filterMap_findings opened dangling fun _ => rfl]

theorem subdirectories (gains : layout.Gains links extended) {documentation : Documentation}
    (opened : layout.openDirectory documentation.root = .ok place)
    (dangling : ∀ link ∈ links, link.directory = place → link.Dangles extended documentation.root)
    {paths : List Path} (listed : (documentation.subdirectories layout).value = .ok paths) :
    (documentation.subdirectories extended).value = .ok paths := by
  obtain ⟨lists, rfl⟩ := Documentation.subdirectories_eq_ok_iff.1 listed
  refine Documentation.subdirectories_eq_ok_iff.2 ⟨gains.lists opened dangling lists, ?_⟩
  rw [gains.filterMap_findings opened dangling fun _ => rfl]

theorem contains_eq_false (gains : layout.Gains links extended) (added : link ∈ links)
    (opened : layout.openDirectory path = .ok link.directory) {pages : Namespace}
    (loaded : (Namespace.load layout path).value = .ok pages) {fileName : List Char}
    (named : Bytes.ofString (String.ofList fileName) = link.name) :
    pages.contains fileName = false := by
  obtain ⟨-, rfl⟩ := Namespace.load_eq_ok_iff.1 loaded
  rw [Namespace.contains, ← Bool.not_eq_true, List.contains_iff_mem, List.mem_filterMap,
    findings_of_openDirectory opened]
  rintro ⟨finding, member, page⟩
  obtain ⟨⟨name, child⟩, listed, rfl⟩ := List.mem_map.1 member
  have met := Finding.name?_of_page? page
  rw [named] at met
  obtain rfl := name_eq_of_examine met
  have old := mem_children.1 listed
  rw [show layout.node? (link.name :: link.directory) = none from gains.node?_place added] at old
  contradiction

theorem not_lists (gains : layout.Gains links extended) (added : link ∈ links)
    (opened : layout.openDirectory path = .ok link.directory)
    (obstructs : link.Obstructs extended path) : ¬extended.Lists path := by
  have opened := gains.openDirectory opened
  obtain ⟨access, found, readable⟩ := openDirectory_eq_ok_iff.1 opened
  obtain ⟨-, here, -⟩ := find_followed_eq_ok_iff.1 found
  have member : extended.examine path link.directory link.name (.link link.target) ∈
      extended.findings path := by
    rw [findings_of_openDirectory opened, List.mem_map]
    exact ⟨(link.name, .link link.target), mem_children.2 (gains.node?_link added), rfl⟩
  rcases obstructs with ⟨node, back⟩ | ⟨cause, other, failed⟩
  · -- The link leads to the directory, which can be opened and is the one being listed.
    obtain rfl : node = .directory access := by
      rw [(find_followed_eq_ok_iff.1 back).2.1] at here
      exact Option.some.inj here
    have again := openDirectory_eq_ok_iff.2 ⟨access, back, readable⟩
    have loop : .failed (.loop (path.join link.name) path) ∈ extended.findings path := by
      simpa [Layout.examine, examineLink, back, again] using member
    exact not_lists_of_failed loop
  · have unreadable :
        .failed (.unreadable (path.join link.name) cause) ∈ extended.findings path := by
      simpa [Layout.examine, examineLink, failed, unreachable, other] using member
    exact not_lists_of_failed unreadable

/-! ## The subdirectories of a root -/

variable {documentation : Documentation} {base : Location} {paths : List Path}

theorem exists_of_mem_subdirectories (gains : layout.Gains links extended)
    (opened : layout.openDirectory documentation.root = .ok base)
    (listed : (documentation.subdirectories layout).value = .ok paths) (member : path ∈ paths)
    (lists : layout.Lists path) :
    ∃ name child place, path = documentation.root.join name ∧
      layout.node? (name :: base) = some child ∧ layout.openDirectory path = .ok place := by
  obtain ⟨spent, access, reaches, here⟩ := exists_reaches_of_openDirectory opened
  obtain ⟨-, rfl⟩ := Documentation.subdirectories_eq_ok_iff.1 listed
  rw [List.mem_filterMap, findings_of_openDirectory opened] at member
  obtain ⟨finding, met, found⟩ := member
  obtain ⟨name', rfl, rfl⟩ := Finding.eq_of_subdirectory? found
  obtain ⟨⟨name, child⟩, entry, met⟩ := List.mem_map.1 met
  have held := mem_children.1 entry
  have proper : Path.IsEntryName name := gains.isEntryName (gains.node?_of_some held)
  cases child with
  | directory access' =>
    cases met
    exact ⟨name, _, name :: base, rfl, held,
      reaches.openDirectory_join here proper held lists⟩
  | file _ _ | device => cases met
  | link target =>
    obtain ⟨rfl, place, opens⟩ := openDirectory_of_examineLink met
    exact ⟨_, _, place, rfl, held, opens⟩

/-- An obstacle in a directory is one by every path from the root: those through links that lead to
the directory follow no fewer links than its own. -/
theorem obstructs_join (gains : layout.Gains links extended) (added : link ∈ links)
    (opened : layout.openDirectory path = .ok base)
    (held : layout.node? link.directory = some (.directory access))
    (own : link.directory = name :: base)
    (near : layout.openDirectory (path.join name) = .ok link.directory)
    {other : Name} (old : layout.node? (other :: base) = some child)
    (far : layout.openDirectory (path.join other) = .ok link.directory)
    (short : ((path.join name).join link.name).bytes.length ≤ pathLimit)
    (obstructs : link.Obstructs extended (path.join name)) :
    link.Obstructs extended (path.join other) := by
  obtain ⟨spent, _, reaches, here⟩ := exists_reaches_of_openDirectory (gains.openDirectory opened)
  obtain ⟨nearer, _, reachesNear, -⟩ :=
    exists_reaches_of_openDirectory (gains.openDirectory near)
  obtain ⟨more, _, reachesFar, -⟩ := exists_reaches_of_openDirectory (gains.openDirectory far)
  have held : extended.node? (name :: base) = some (.directory access) :=
    gains.node?_of_some (own ▸ held)
  obtain rfl := reaches.spent_eq here (gains.isEntryName held) held reachesNear
  obtain ⟨extra, rfl, -⟩ := reaches.of_join (gains.isEntryName (gains.node?_of_some old)) reachesFar
  exact obstructs.of_farther reachesNear reachesFar (Nat.le_add_right _ _)
    (gains.isEntryName (gains.node?_link added)) short

end Layout.Gains

theorem Documentation.join_mem_subdirectories {documentation : Documentation} {layout : Layout}
    {base : Location} {name : Name} {access : Access} {paths : List Path}
    (opened : layout.openDirectory documentation.root = .ok base)
    (listed : (documentation.subdirectories layout).value = .ok paths)
    (held : layout.node? (name :: base) = some (.directory access)) :
    documentation.root.join name ∈ paths := by
  obtain ⟨-, rfl⟩ := subdirectories_eq_ok_iff.1 listed
  rw [List.mem_filterMap, Layout.findings_of_openDirectory opened]
  exact ⟨_, List.mem_map_of_mem (Layout.mem_children.2 held), rfl⟩

end BrokenLinks
