import BrokenLinks.Proofs.FileTree.Elsewhere
import BrokenLinks.Proofs.FileTree.Order
import Mathlib.Data.List.Sort

/-! What a directory shows under its names, in any layout.

An entry shows itself, and a link shows what is found at the path of the directory and the name. A
listing without failures meets what is shown and nothing else, so the pages of a namespace and the
subdirectories of a root are read off the entries. -/

set_option autoImplicit false

namespace BrokenLinks

namespace Finding

theorem page?_eq_some_iff {finding : Finding} {page : String} :
    finding.page? = some page ↔
      finding = .entry (Bytes.ofString page) .file ∧ isPage (Bytes.ofString page) = true := by
  constructor
  · intro found
    unfold page? at found
    split at found
    · split at found
      · next page => exact Bytes.text?_eq_some_iff.1 found ▸ ⟨rfl, page⟩
      · contradiction
    · contradiction
  · rintro ⟨rfl, page⟩
    rw [page?, if_pos page, Bytes.text?_eq_some_iff]

def directory? : Finding → Option Name
  | .entry name .directory => some name
  | _ => none

theorem directory?_eq_some_iff {finding : Finding} {name : Name} :
    finding.directory? = some name ↔ finding = .entry name .directory := by
  unfold directory?
  split <;> simp_all

theorem subdirectory?_eq_map (root : Path) (finding : Finding) :
    finding.subdirectory? root = finding.directory?.map root.join := by
  cases finding with
  | entry name kind => cases kind <;> rfl
  | _ => rfl

end Finding

namespace Layout

variable {layout : Layout} {path : Path} {place goal : Location} {name : Name} {node : Node}
  {kind : EntryKind}

/-! ## Links of a directory -/

theorem examineLink_of_find {above : List (Path × Location)}
    (found : layout.find .followed path = .ok (goal, node)) :
    layout.examineLink above name path = .entry name node.kind ∨
      ∃ error, layout.examineLink above name path = .failed error := by
  unfold examineLink
  rw [found]
  cases node with
  | directory access =>
    simp only
    split
    · exact .inr ⟨_, rfl⟩
    · split
      · exact .inr ⟨_, rfl⟩
      · exact .inl rfl
  | file _ _ | link _ | device => exact .inl rfl

theorem eq_of_examineLink {above : List (Path × Location)} {name' : Name}
    (met : layout.examineLink above name path = .entry name' kind) :
    name' = name ∧ ∃ goal node, layout.find .followed path = .ok (goal, node) ∧
      node.kind = kind := by
  cases found : layout.find .followed path with
  | error cause =>
    simp only [examineLink, found, unreachable] at met
    split at met <;> contradiction
  | ok reached =>
    obtain ⟨goal, node⟩ := reached
    rcases examineLink_of_find found with shown | ⟨error, refused⟩
    · rw [shown, Finding.entry.injEq] at met
      exact ⟨met.1.symm, goal, node, rfl, met.2⟩
    · rw [refused] at met
      contradiction

theorem examine_of_notLink (directory : Path) (notLink : node.target? = none) :
    layout.examine directory place name node = .entry name node.kind := by
  cases node with
  | link target => contradiction
  | file _ _ | directory _ | device => rfl

/-! ## Entries -/

/-- The directory at the path has an entry of this name and kind, or a link of this name at which
something of the kind is found. -/
inductive Shows (layout : Layout) (directory : Path) (name : Name) (kind : EntryKind) : Prop where
  | itself {place : Location} {node : Node} (opened : layout.openDirectory directory = .ok place)
      (held : layout.node? (name :: place) = some node) (notLink : node.target? = none)
      (sort : node.kind = kind)
  | link {place goal : Location} {target : Path} {node : Node}
      (opened : layout.openDirectory directory = .ok place)
      (held : layout.node? (name :: place) = some (.link target))
      (found : layout.find .followed (directory.join name) = .ok (goal, node))
      (sort : node.kind = kind)

theorem Shows.exists_openDirectory (shown : layout.Shows path name kind) :
    ∃ place, layout.openDirectory path = .ok place := by
  cases shown with
  | itself opened | link opened => exact ⟨_, opened⟩

theorem not_entry_mem_findings (absent : layout.NoDirectory path) :
    .entry name kind ∉ layout.findings path := by
  rw [findings_of_noDirectory absent]
  split
  · exact List.not_mem_nil
  · rw [List.mem_singleton, unreachable]
    split <;> exact Finding.noConfusion

/-- In any layout, a listing without failures meets exactly what is shown. -/
theorem Lists.entry_mem_findings_iff (lists : layout.Lists path) :
    .entry name kind ∈ layout.findings path ↔ layout.Shows path name kind := by
  by_cases absent : layout.NoDirectory path
  · refine iff_of_false (not_entry_mem_findings absent) fun shown => ?_
    obtain ⟨place, opened⟩ := shown.exists_openDirectory
    obtain ⟨access, found, -⟩ := openDirectory_eq_ok_iff.1 opened
    exact absent place access found
  · simp only [NoDirectory, ne_eq, not_forall, not_not] at absent
    obtain ⟨place, access, found⟩ := absent
    have opened := lists.openDirectory found
    have complete := lists.failure?_eq_none
    rw [findings_of_openDirectory opened] at complete ⊢
    rw [List.mem_map]
    constructor
    · rintro ⟨⟨name', child⟩, listed, met⟩
      have held := mem_children.1 listed
      cases linked : child.target? with
      | none =>
        rw [examine_of_notLink path linked, Finding.entry.injEq] at met
        obtain ⟨rfl, rfl⟩ := met
        exact .itself opened held linked rfl
      | some target =>
        obtain rfl := Node.target?_eq_some_iff.1 linked
        obtain ⟨rfl, goal, node, found, sort⟩ := eq_of_examineLink met
        exact .link opened held found sort
    · intro shown
      cases shown with
      | itself opened' held notLink sort =>
        cases opened.symm.trans opened'
        exact ⟨_, mem_children.2 held, sort ▸ examine_of_notLink path notLink⟩
      | link opened' held found sort =>
        cases opened.symm.trans opened'
        have unfailing := complete _ (List.mem_map_of_mem (mem_children.2 held))
        refine ⟨_, mem_children.2 held, ?_⟩
        rcases examineLink_of_find found with met | ⟨error, refused⟩
        · exact sort ▸ met
        · rw [examine, refused] at unfailing
          contradiction

/-- The directory at the path has an entry of this name that is a file, or a link that leads to
one. -/
def HoldsFile (layout : Layout) (directory : Path) (name : Name) : Prop :=
  ∃ place access, layout.find .followed directory = .ok (place, .directory access) ∧
    ((∃ id access, layout.node? (name :: place) = some (.file id access)) ∨
      (∃ target, layout.node? (name :: place) = some (.link target)) ∧
        ∃ id, layout.file? (directory.join name) = some id)

theorem HoldsFile.shows (holds : layout.HoldsFile path name) (lists : layout.Lists path) :
    layout.Shows path name .file := by
  obtain ⟨place, access, found, held⟩ := holds
  have opened := lists.openDirectory found
  rcases held with ⟨id, access', entry⟩ | ⟨⟨target, entry⟩, id, leads⟩
  · exact .itself opened entry rfl rfl
  · unfold file? at leads
    split at leads
    next reached => exact .link opened entry reached rfl
    next => contradiction

/-! ## Pages and subdirectories -/

/-- The names are those of all markdown files that the directory shows, in order. -/
structure ShowsPages (layout : Layout) (directory : Path) (names : List String) : Prop where
  ascend : (names.map Bytes.ofString).Pairwise (· < ·)
  shown : ∀ name, name ∈ names ↔ Finding.isPage (Bytes.ofString name) = true ∧
    layout.Shows directory (Bytes.ofString name) .file

structure ShowsDirectories (layout : Layout) (root : Path) (names : List Name) : Prop where
  ascend : names.Pairwise (· < ·)
  shown : ∀ name, name ∈ names ↔ layout.Shows root name .directory

theorem ShowsPages.eq {names names' : List String} (first : layout.ShowsPages path names)
    (second : layout.ShowsPages path names') : names = names' := by
  have encoded : names.map Bytes.ofString = names'.map Bytes.ofString := by
    refine first.ascend.eq_of_mem_iff second.ascend fun name => ?_
    simp only [List.mem_map, first.shown, second.shown]
  exact List.map_injective_iff.2 (fun _ _ => Bytes.ofString_injective) encoded

theorem ShowsDirectories.eq {names names' : List Name} (first : layout.ShowsDirectories path names)
    (second : layout.ShowsDirectories path names') : names = names' :=
  first.ascend.eq_of_mem_iff second.ascend fun name => by rw [first.shown, second.shown]

theorem Lists.showsPages (lists : layout.Lists path) :
    layout.ShowsPages path ((layout.findings path).filterMap (·.page?)) where
  ascend := (Namespace.names_ascend (Namespace.load_eq_ok_iff.2 ⟨lists, rfl⟩)).2
  shown name := by
    simp only [List.mem_filterMap, Finding.page?_eq_some_iff, ← lists.entry_mem_findings_iff]
    exact ⟨fun ⟨_, met, same, page⟩ => ⟨page, same ▸ met⟩, fun ⟨page, met⟩ => ⟨_, met, rfl, page⟩⟩

theorem Lists.showsDirectories (lists : layout.Lists path) :
    layout.ShowsDirectories path ((layout.findings path).filterMap (·.directory?)) where
  ascend := by
    refine (findings_ascend layout path).sublist
      (filterMap_sublist_filterMap (fun finding name found => ?_) _)
    rw [Finding.directory?_eq_some_iff.1 found, Finding.name?]
  shown name := by
    simp only [List.mem_filterMap, Finding.directory?_eq_some_iff, exists_eq_right,
      lists.entry_mem_findings_iff]

end Layout

variable {layout : Layout} {path : Path}

theorem Namespace.load_eq_ok_iff_showsPages {pages : Namespace} :
    (Namespace.load layout path).value = .ok pages ↔
      layout.Lists path ∧ pages.path = path ∧ layout.ShowsPages path pages.names := by
  rw [load_eq_ok_iff]
  refine and_congr_right fun lists => ?_
  constructor
  · rintro rfl
    exact ⟨rfl, lists.showsPages⟩
  · rintro ⟨rfl, shown⟩
    exact congrArg (Namespace.mk _) (shown.eq lists.showsPages)

theorem Namespace.mem_names_of_holdsFile {pages : Namespace} {name : String}
    (loaded : (Namespace.load layout path).value = .ok pages)
    (holds : layout.HoldsFile path (Bytes.ofString name))
    (page : Finding.isPage (Bytes.ofString name) = true) : name ∈ pages.names := by
  obtain ⟨lists, -, shown⟩ := load_eq_ok_iff_showsPages.1 loaded
  exact (shown.shown name).2 ⟨page, holds.shows lists⟩

theorem Documentation.subdirectories_eq_ok_iff_showsDirectories {documentation : Documentation}
    {paths : List Path} :
    (documentation.subdirectories layout).value = .ok paths ↔
      layout.Lists documentation.root ∧ ∃ names, layout.ShowsDirectories documentation.root names ∧
        paths = names.map documentation.root.join := by
  rw [subdirectories_eq_ok_iff]
  refine and_congr_right fun lists => ?_
  have joined : (layout.findings documentation.root).filterMap
        (·.subdirectory? documentation.root) =
      ((layout.findings documentation.root).filterMap (·.directory?)).map
        documentation.root.join := by
    rw [List.map_filterMap]
    exact List.filterMap_congr fun finding _ => finding.subdirectory?_eq_map _
  rw [joined]
  constructor
  · rintro rfl
    exact ⟨_, lists.showsDirectories, rfl⟩
  · rintro ⟨names, shown, rfl⟩
    rw [shown.eq lists.showsDirectories]

end BrokenLinks
