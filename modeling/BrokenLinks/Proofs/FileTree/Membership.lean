import BrokenLinks.Documentation
import BrokenLinks.Proofs.FileTree.Passage
import Mathlib.Data.List.Nodup
import Mathlib.Data.List.TakeWhile

/-! Listings without failures, and what namespaces and roots read off them.

A listing first looks at the path without following a link at its end. If the path leads to a
directory, this look-up finds the directory or a link to it, so every entry is examined. -/

set_option autoImplicit false

namespace BrokenLinks

def Node.target? : Node → Option Path
  | .link target => some target
  | _ => none

theorem Node.target?_eq_some_iff {node : Node} {target : Path} :
    node.target? = some target ↔ node = .link target := by
  cases node <;> simp [target?]

namespace Layout

variable {layout : Layout} {path directory : Path} {place : Location} {name : Name} {node : Node}
  {access : Access}

/-! ## Links kept and links followed -/

theorem find_kept_of_followed (found : layout.find .followed path = .ok (place, node)) :
    layout.find .kept path = .ok (place, node) ∨
      ∃ link target, layout.find .kept path = .ok (link, .link target) := by
  rcases layout.find_kept_eq_or_link path with same | link
  · exact .inl (same.trans found)
  · exact .inr link

/-! ## Listings -/

theorem openDirectory_of_find
    (found : layout.find .followed path = .ok (place, .directory access)) :
    layout.openDirectory path = if access.read then .ok place else .error .permissionDenied := by
  simp only [openDirectory, found, bind, Except.bind, pure, Except.pure]
  rfl

theorem openDirectory_eq_ok_iff : layout.openDirectory path = .ok place ↔
    ∃ access, layout.find .followed path = .ok (place, .directory access) ∧ access.read = true := by
  cases found : layout.find .followed path with
  | error cause => simp [openDirectory, found, bind, Except.bind]
  | ok reached =>
    obtain ⟨place', node⟩ := reached
    cases node with
    | directory access =>
      rw [openDirectory_of_find found]
      by_cases readable : access.read = true
      · rw [if_pos readable]
        constructor
        · rintro ⟨⟩
          exact ⟨access, rfl, readable⟩
        · rintro ⟨_, ⟨⟩, _⟩
          rfl
      · simp [readable]
    | _ =>
      simp [openDirectory, found, bind, Except.bind, throw, throwThe, MonadExceptOf.throw]

theorem findings_of_openDirectory (opened : layout.openDirectory path = .ok place) :
    layout.findings path =
      (layout.children place).map fun child => layout.examine path place child.1 child.2 := by
  obtain ⟨access, found, readable⟩ := openDirectory_eq_ok_iff.1 opened
  rcases find_kept_of_followed found with kept | ⟨link, target, kept⟩ <;>
    simp [findings, kept, opened, found, examineLink]

/-- Nothing in the listing of the directory fails. -/
def Lists (layout : Layout) (path : Path) : Prop :=
  (layout.findings path).filterMap Finding.failure? = []

theorem Lists.failure?_eq_none (lists : layout.Lists path) :
    ∀ finding ∈ layout.findings path, finding.failure? = none :=
  List.filterMap_eq_nil_iff.1 lists

theorem failure?_list_eq_none_iff : (layout.list path).failure? = none ↔ layout.Lists path := by
  rw [list, Listing.ofFindings, List.findSome?_eq_none_iff, Lists, List.filterMap_eq_nil_iff]

theorem Lists.found (lists : layout.Lists path) :
    (layout.list path).found = layout.findings path := by
  rw [list, Listing.ofFindings, List.takeWhile_eq_self_iff]
  simpa using lists.failure?_eq_none

theorem not_lists_of_failed {error : ListingError} (failed : .failed error ∈ layout.findings path) :
    ¬layout.Lists path := fun lists => by
  simpa [Finding.failure?] using lists.failure?_eq_none _ failed

theorem Lists.openDirectory (lists : layout.Lists path)
    (found : layout.find .followed path = .ok (place, .directory access)) :
    layout.openDirectory path = .ok place := by
  have complete := lists.failure?_eq_none
  have opened := openDirectory_of_find found
  cases readable : access.read with
  | true => simpa [readable] using opened
  | false =>
    simp only [readable, Bool.false_eq_true, if_false] at opened
    rcases find_kept_of_followed found with kept | ⟨link, target, kept⟩ <;>
      simp [findings, kept, opened, found, examineLink, Finding.failure?] at complete

theorem node?_eq_some_iff : layout.node? place = some node ↔ (place, node) ∈ layout.entries := by
  have mem_of_found {found : Node} (here : layout.node? place = some found) :
      (place, found) ∈ layout.entries := by
    obtain ⟨before, after, split, -⟩ := List.lookup_eq_some_iff.1 here
    simp [split]
  refine ⟨mem_of_found, fun mem => ?_⟩
  cases here : layout.node? place with
  | none => simpa using List.lookup_eq_none_iff.1 here _ mem
  | some found =>
    cases List.inj_on_of_nodup_map layout.distinct (mem_of_found here) mem rfl
    rfl

theorem mem_children :
    (name, node) ∈ layout.children place ↔ layout.node? (name :: place) = some node := by
  rw [node?_eq_some_iff, children, List.mem_mergeSort, List.mem_filterMap]
  constructor
  · rintro ⟨⟨location, node'⟩, member, listed⟩
    cases location with
    | nil => contradiction
    | cons name' parent =>
      simp only [Option.ite_none_right_eq_some, Option.some.injEq, Prod.mk.injEq] at listed
      obtain ⟨rfl, rfl, rfl⟩ := listed
      exact member
  · intro member
    exact ⟨_, member, by simp⟩

end Layout

def Finding.subdirectory? (root : Path) : Finding → Option Path
  | .entry name .directory => some (root.join name)
  | _ => none

theorem Finding.eq_of_subdirectory? {root path : Path} {finding : Finding}
    (found : finding.subdirectory? root = some path) :
    ∃ name, finding = .entry name .directory ∧ path = root.join name := by
  unfold subdirectory? at found
  split at found
  · exact ⟨_, rfl, (Option.some.inj found).symm⟩
  · contradiction

theorem Namespace.load_eq_ok_iff {layout : Layout} {path : Path} {pages : Namespace} :
    (Namespace.load layout path).value = .ok pages ↔
      layout.Lists path ∧ pages = ⟨path, (layout.findings path).filterMap (·.page?)⟩ := by
  rw [← Layout.failure?_list_eq_none_iff]
  unfold Namespace.load
  simp only
  split
  next failed => simp [failed]
  next complete =>
    have lists := Layout.failure?_list_eq_none_iff.1 complete
    simp [complete, lists.found, eq_comm]

namespace Documentation

variable {documentation : Documentation} {layout : Layout} {paths : List Path}

theorem exists_of_ofRoot {root : Path}
    (found : Documentation.ofRoot layout root = .ok documentation) :
    documentation = ⟨root⟩ ∧
      ∃ place access, layout.find .followed root = .ok (place, .directory access) := by
  unfold ofRoot at found
  split at found
  · cases found
    exact ⟨rfl, _, _, by assumption⟩
  all_goals contradiction

theorem subdirectories_eq_ok_iff :
    (documentation.subdirectories layout).value = .ok paths ↔ layout.Lists documentation.root ∧
      paths = (layout.findings documentation.root).filterMap
        (·.subdirectory? documentation.root) := by
  rw [← Layout.failure?_list_eq_none_iff]
  unfold Documentation.subdirectories
  simp only
  split
  next failed => simp [failed]
  next complete =>
    have lists := Layout.failure?_list_eq_none_iff.1 complete
    rw [Except.ok.injEq, eq_comm, and_iff_right complete]
    refine Eq.congr_right ?_
    rw [Listing.entries, lists.found, ← List.filterMap_eq_filter, List.filterMap_filterMap,
      List.map_filterMap]
    refine List.filterMap_congr fun finding _ => ?_
    cases finding with
    | entry name kind => cases kind <;> rfl
    | dangling link => rfl
    | failed error => rfl

theorem exists_subdirectories_error_iff :
    (∃ error, (documentation.subdirectories layout).value = .error error) ↔
      ¬layout.Lists documentation.root := by
  rw [← Layout.failure?_list_eq_none_iff]
  unfold Documentation.subdirectories
  simp only
  split
  next failed => simp [failed]
  next complete => simp [complete]

end Documentation

end BrokenLinks
