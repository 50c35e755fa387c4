import BrokenLinks.Proofs.FileTree.Entry
import Mathlib

/-! The subdirectories of a documentation root are the directories that it provides.

The entries are met in the order of their names, and only links can fail. So either no link is an
obstacle, and all directories are there, or the failure is that of the first link that is one. -/

set_option autoImplicit false

namespace BrokenLinks

theorem Path.join_inj {path : Path} {name name' : Name} (proper : IsEntryName name)
    (proper' : IsEntryName name') (nonempty : path.bytes ≠ [])
    (same : path.join name = path.join name') : name = name' := by
  have pieces := pieces_join proper.noSlash nonempty
  rw [same, pieces_join proper'.noSlash nonempty] at pieces
  have last := List.append_cancel_left pieces
  simpa [proper.nonempty, proper'.nonempty] using last.symm

theorem findSome?_eq_some_iff_least {β γ : Type} {items : List (Name × β)}
    (ascend : (items.map Prod.fst).Pairwise (· < ·)) {look : Name × β → Option γ} {value : γ} :
    items.findSome? look = some value ↔
      ∃ item ∈ items, look item = some value ∧
        ∀ earlier ∈ items, earlier.1 < item.1 → look earlier = none := by
  rw [List.findSome?_eq_some_iff]
  rw [List.pairwise_map] at ascend
  constructor
  · rintro ⟨before, item, after, rfl, found, none⟩
    refine ⟨item, by simp, found, fun earlier mem less => ?_⟩
    rcases List.mem_append.1 mem with first | later
    · exact none earlier first
    · have notLess : item.1 ≤ earlier.1 := by
        rcases List.mem_cons.1 later with rfl | later
        · exact List.le_refl _
        · exact List.le_of_lt (List.rel_of_pairwise_cons (List.pairwise_append.1 ascend).2.1 later)
      exact absurd less (List.not_lt.2 notLess)
  · rintro ⟨item, mem, found, least⟩
    obtain ⟨before, after, rfl⟩ := List.append_of_mem mem
    refine ⟨before, item, after, rfl, found, fun earlier first => ?_⟩
    exact least earlier (List.mem_append_left _ first)
      ((List.pairwise_append.1 ascend).2.2 earlier first item List.mem_cons_self)

/-- The link of this name in the directory leads back there, or nowhere though something is in the
way, and this is reported. -/
inductive Layout.Obstacle (layout : Layout) (directory : Path) (place : Location) (name : Name) :
    ListingError → Prop where
  | unreadable {target : Path} {cause : AccessError}
      (held : layout.node? (name :: place) = some (.link target)) (other : cause ≠ .notFound)
      (failed : layout.find .followed (directory.join name) = .error cause) :
      Obstacle layout directory place name (.unreadable (directory.join name) cause)
  | loop {target : Path} {node : Node}
      (held : layout.node? (name :: place) = some (.link target))
      (back : layout.find .followed (directory.join name) = .ok (place, node)) :
      Obstacle layout directory place name (.loop (directory.join name) directory)

namespace Layout

variable {layout : Layout} {path : Path} {place : Location} {name : Name} {child : Node}
  {error : ListingError}

theorem Obstacle.exists_held (obstacle : layout.Obstacle path place name error) :
    ∃ target, layout.node? (name :: place) = some (.link target) := by
  cases obstacle with
  | unreadable held | loop held => exact ⟨_, held⟩

theorem Accessible.examine_link (accessible : layout.Accessible)
    (opened : layout.openDirectory path = .ok place) {target : Path}
    (held : layout.node? (name :: place) = some (.link target)) :
    layout.examine path place name (.link target) =
      match layout.find .followed (path.join name) with
      | .error .notFound => .dangling (path.join name)
      | .error cause => .failed (.unreadable (path.join name) cause)
      | .ok (goal, node) =>
        if goal = place then .failed (.loop (path.join name) path)
        else .entry name node.kind := by
  obtain ⟨spent, access, reaches, here⟩ := exists_reaches_of_openDirectory opened
  cases found : layout.find .followed (path.join name) with
  | error cause =>
    by_cases missing : cause = .notFound
    · subst missing
      have kept := reaches.find_kept here (accessible.isEntryName held) held found
      simp [examine, examineLink, found, unreachable, isLink, kept]
    · simp [examine, examineLink, found, unreachable, missing]
  | ok reached =>
    obtain ⟨goal, node⟩ := reached
    have there := (find_followed_eq_ok_iff.1 found).2.1
    cases node with
    | directory access' =>
      have opens := accessible.openDirectory found
      by_cases back : goal = place
      · simp [examine, examineLink, found, opens, back]
      · simp [examine, examineLink, found, opens, back, Ne.symm back, Node.kind]
    | file _ _ | link _ | device =>
      have elsewhere : goal ≠ place := by
        rintro rfl
        rw [here] at there
        cases there
      simp [examine, examineLink, found, elsewhere]

/-- A link is no obstacle if it leads to another place, or to nothing. -/
theorem forall_not_obstacle_iff {target : Path}
    (held : layout.node? (name :: place) = some (.link target)) :
    (∀ error, ¬layout.Obstacle path place name error) ↔
      (∃ goal node, layout.find .followed (path.join name) = .ok (goal, node) ∧ goal ≠ place) ∨
        layout.find .followed (path.join name) = .error .notFound := by
  constructor
  · intro clear
    cases found : layout.find .followed (path.join name) with
    | error cause =>
      by_cases missing : cause = .notFound
      · exact .inr (by rw [missing])
      · exact absurd (.unreadable held missing found) (clear _)
    | ok reached =>
      obtain ⟨goal, node⟩ := reached
      refine .inl ⟨goal, node, rfl, ?_⟩
      rintro rfl
      exact clear _ (.loop held found)
  · rintro (⟨goal, node, found, elsewhere⟩ | missing) error (⟨-, other, failed⟩ | ⟨-, back⟩)
    · simp [found] at failed
    · rw [found] at back
      cases back
      exact elsewhere rfl
    · rw [missing, Except.error.injEq] at failed
      exact other failed.symm
    · simp [missing] at back

theorem failure?_examine_iff (accessible : layout.Accessible)
    (opened : layout.openDirectory path = .ok place)
    (held : layout.node? (name :: place) = some child) :
    (layout.examine path place name child).failure? = some error ↔
      layout.Obstacle path place name error := by
  cases linked : child.target? with
  | none =>
    rw [examine_of_notLink path linked]
    refine iff_of_false (by simp [Finding.failure?]) ?_
    rintro (⟨held', -, -⟩ | ⟨held', -⟩) <;>
    · rw [held, Option.some.injEq] at held'
      simp [held', Node.target?] at linked
  | some target =>
    obtain rfl := Node.target?_eq_some_iff.1 linked
    rw [accessible.examine_link opened held]
    constructor
    · intro failed
      split at failed
      case h_1 => contradiction
      case h_2 cause other found =>
        cases failed
        exact .unreadable held other found
      case h_3 goal node found =>
        split at failed
        case isTrue back =>
          cases failed
          exact .loop held (back ▸ found)
        case isFalse => contradiction
    · rintro (⟨-, other, failed⟩ | ⟨-, back⟩)
      · simp [failed, Finding.failure?]
      · simp [back, Finding.failure?]

theorem lists_iff_forall_not_obstacle (accessible : layout.Accessible)
    (opened : layout.openDirectory path = .ok place) :
    layout.Lists path ↔ ∀ name error, ¬layout.Obstacle path place name error := by
  rw [Lists, List.filterMap_eq_nil_iff, findings_of_openDirectory opened, List.forall_mem_map]
  constructor
  · intro unfailing name error obstacle
    obtain ⟨target, held⟩ := obstacle.exists_held
    have shown := unfailing _ (mem_children.2 held)
    rw [(failure?_examine_iff accessible opened held).2 obstacle] at shown
    contradiction
  · intro clear child listed
    rw [Option.eq_none_iff_forall_ne_some]
    exact fun error failed => clear child.1 error
      ((failure?_examine_iff accessible opened (mem_children.1 listed)).1 failed)

/-- The listing fails at the first obstacle. -/
theorem failure?_list_iff (accessible : layout.Accessible)
    (opened : layout.openDirectory path = .ok place) :
    (layout.list path).failure? = some error ↔
      ∃ name, layout.Obstacle path place name error ∧
        ∀ earlier < name, ∀ other, ¬layout.Obstacle path place earlier other := by
  have examined {name : Name} {child : Node} (listed : (name, child) ∈ layout.children place)
      (error : ListingError) :
      (layout.examine path place name child).failure? = some error ↔
        layout.Obstacle path place name error :=
    failure?_examine_iff accessible opened (mem_children.1 listed)
  rw [list, Listing.ofFindings, findings_of_openDirectory opened, List.findSome?_map,
    findSome?_eq_some_iff_least (children_ascend layout place)]
  constructor
  · rintro ⟨⟨name, child⟩, listed, failed, least⟩
    refine ⟨name, (examined listed error).1 failed, fun earlier less other obstacle => ?_⟩
    obtain ⟨target, held⟩ := obstacle.exists_held
    have earlierListed := mem_children.2 held
    have unfailing : (layout.examine path place earlier (.link target)).failure? = none :=
      least _ earlierListed less
    rw [(examined earlierListed other).2 obstacle] at unfailing
    contradiction
  · rintro ⟨name, obstacle, least⟩
    obtain ⟨target, held⟩ := obstacle.exists_held
    have listed := mem_children.2 held
    refine ⟨_, listed, (examined listed error).2 obstacle, ?_⟩
    rintro ⟨earlier, child⟩ mem less
    rw [Function.comp_apply, Option.eq_none_iff_forall_ne_some]
    exact fun other failed => least earlier less other ((examined mem other).1 failed)

end Layout

theorem Node.kind_eq_directory_iff {node : Node} :
    node.kind = .directory ↔ ∃ access, node = .directory access := by
  cases node <;> simp [kind]

namespace Documentation

variable {documentation : Documentation} {layout : Layout} {root : Path} {place : Location}
  {access : Access} {paths : List Path}

theorem subdirectories_eq_error_iff {error : ListingError} :
    (documentation.subdirectories layout).value = .error error ↔
      (layout.list documentation.root).failure? = some error := by
  unfold subdirectories
  simp only
  split
  next failed => simp [failed]
  next complete => simp [complete]

theorem exists_names_of_subdirectories (wellFormed : layout.WellFormed)
    (opened : layout.openDirectory documentation.root = .ok place)
    (listed : (documentation.subdirectories layout).value = .ok paths) :
    ∃ names : List Name, names.Pairwise (· < ·) ∧ paths = names.map documentation.root.join ∧
      ∀ name, name ∈ names ↔
        ∃ goal access, layout.Provides place name goal (.directory access) := by
  obtain ⟨lists, names, shown, rfl⟩ := subdirectories_eq_ok_iff_showsDirectories.1 listed
  refine ⟨names, shown.ascend, rfl, fun name => ?_⟩
  rw [shown.shown, lists.shows_iff wellFormed opened]
  simp only [Node.kind_eq_directory_iff]
  constructor
  · rintro ⟨goal, _, provides, access, rfl⟩
    exact ⟨goal, access, provides⟩
  · rintro ⟨goal, access, provides⟩
    exact ⟨goal, _, provides, access, rfl⟩

/-- The subdirectories of an open root: all directories that it provides, once each and in the order
of their names, unless a link in it is an obstacle. -/
theorem subdirectories_exact (accessible : layout.Accessible)
    (openedRoot : Documentation.ofRoot layout root = .ok documentation) :
    ∃ place access, layout.find .followed root = .ok (place, .directory access) ∧
      ((∃ paths, (documentation.subdirectories layout).value = .ok paths) ↔
        ∀ name target, layout.node? (name :: place) = some (.link target) →
          (∃ goal node, layout.find .followed (root.join name) = .ok (goal, node) ∧
            goal ≠ place) ∨
          layout.find .followed (root.join name) = .error .notFound) ∧
      (∀ paths, (documentation.subdirectories layout).value = .ok paths →
        ∃ names : List Name, names.Pairwise (· < ·) ∧ paths = names.map root.join ∧ paths.Nodup ∧
          ∀ name, name ∈ names ↔
            ∃ goal access, layout.Provides place name goal (.directory access)) ∧
      ∀ error, (documentation.subdirectories layout).value = .error error ↔
        ∃ name, layout.Obstacle root place name error ∧
          ∀ earlier < name, ∀ other, ¬layout.Obstacle root place earlier other := by
  obtain ⟨rfl, place, access, found⟩ := exists_of_ofRoot openedRoot
  have opened := accessible.openDirectory found
  obtain ⟨-, -, spent, reaches⟩ := Layout.find_followed_eq_ok_iff.1 found
  refine ⟨place, access, found, ?_, fun paths listed => ?_, fun error => ?_⟩
  · have listable : (∃ paths, (Documentation.subdirectories ⟨root⟩ layout).value = .ok paths) ↔
        layout.Lists root := by
      simp [subdirectories_eq_ok_iff]
    rw [listable, Layout.lists_iff_forall_not_obstacle accessible opened]
    constructor
    · exact fun clear name target held => (Layout.forall_not_obstacle_iff held).1 (clear name)
    · intro clear name error obstacle
      obtain ⟨target, held⟩ := obstacle.exists_held
      exact (Layout.forall_not_obstacle_iff held).2 (clear name target held) error obstacle
  · obtain ⟨names, ascend, rfl, provided⟩ :=
      exists_names_of_subdirectories accessible.toWellFormed opened listed
    have proper {name : Name} (mem : name ∈ names) : Path.IsEntryName name := by
      obtain ⟨goal, access, provides⟩ := (provided name).1 mem
      exact provides.isEntryName accessible.toWellFormed
    refine ⟨names, ascend, rfl, ?_, provided⟩
    exact ascend.nodup.map_on fun name mem name' mem' =>
      Path.join_inj (proper mem) (proper mem') reaches.nonempty
  · rw [subdirectories_eq_error_iff]
    exact Layout.failure?_list_iff accessible opened

end Documentation

/-- A root with directories, links to them and above the root, and one to nothing; and a root with a
link back to it before one that leads to itself. -/
def twoRootsLayout : Layout where
  entries :=
    let docs := [Bytes.ofString "docs"]
    let bad := [Bytes.ofString "bad"]
    [([], .directory .unrestricted), (docs, .directory .unrestricted),
      (bad, .directory .unrestricted),
      (Bytes.ofString "b" :: docs, .directory .unrestricted),
      (Bytes.ofString "a" :: docs, .link (.ofString "b")),
      (Bytes.ofString "up" :: docs, .link (.ofString "..")),
      (Bytes.ofString "c.md" :: docs, .file 0 .unrestricted),
      (Bytes.ofString "stale" :: docs, .link (.ofString "gone")),
      (Bytes.ofString "back" :: bad, .link (.ofString "../bad")),
      (Bytes.ofString "itself" :: bad, .link (.ofString "itself"))]
  workingDirectory := []
  distinct := by decide +kernel

theorem Documentation.subdirectories_exact_two_roots :
    let docs : Documentation := ⟨.ofString "docs"⟩
    let bad : Documentation := ⟨.ofString "bad"⟩
    let paths := ["docs/a", "docs/b", "docs/up"].map Path.ofString
    let loop : ListingError := .loop (.ofString "bad/back") bad.root
    twoRootsLayout.Accessible ∧
      (Documentation.ofRoot twoRootsLayout docs.root = .ok docs ∧
        (docs.subdirectories twoRootsLayout).value = .ok paths ∧ paths.Nodup ∧
        ∃ place, ∀ path ∈ paths, ∃ name goal access, path = docs.root.join name ∧
          twoRootsLayout.Provides place name goal (.directory access)) ∧
      Documentation.ofRoot twoRootsLayout bad.root = .ok bad ∧
        (bad.subdirectories twoRootsLayout).value = .error loop ∧
        ∃ place name, twoRootsLayout.Obstacle bad.root place name loop := by
  intro docs bad paths loop
  have accessible : twoRootsLayout.Accessible :=
    ⟨⟨by decide +kernel, by decide +kernel⟩, by decide +kernel, by decide +kernel⟩
  have openedDocs : Documentation.ofRoot twoRootsLayout docs.root = .ok docs := by
    decide +kernel
  have openedBad : Documentation.ofRoot twoRootsLayout bad.root = .ok bad := by
    decide +kernel
  have listed : (docs.subdirectories twoRootsLayout).value = .ok paths := by cbv
  have failed : (bad.subdirectories twoRootsLayout).value = .error loop := by cbv
  obtain ⟨place, -, -, -, exact, -⟩ := subdirectories_exact accessible openedDocs
  obtain ⟨place', -, -, -, -, first⟩ := subdirectories_exact accessible openedBad
  obtain ⟨names, -, same, distinct, provided⟩ := exact _ listed
  obtain ⟨name, obstacle, -⟩ := (first loop).1 failed
  refine ⟨accessible, ⟨openedDocs, listed, distinct, place, fun path mem => ?_⟩, openedBad, failed,
    place', name, obstacle⟩
  rw [same] at mem
  obtain ⟨name, named, rfl⟩ := List.mem_map.1 mem
  obtain ⟨goal, access, provides⟩ := (provided name).1 named
  exact ⟨name, goal, access, rfl, provides⟩

end BrokenLinks
