import BrokenLinks.Proofs.FileTree.Membership

/-! Listings of paths that lead to no directory.

Nothing is listed of a file, or of a link to one, and a link to nothing is passed over. So none of
these is told from an empty directory; every other path fails, as its look-up does. -/

set_option autoImplicit false

namespace BrokenLinks

namespace Layout

/-- The path leads to no directory, be it that it leads nowhere. -/
def NoDirectory (layout : Layout) (path : Path) : Prop :=
  ∀ place access, layout.find .followed path ≠ .ok (place, .directory access)

/-- The path leads to something, or there is a link to nothing at it. -/
def SeemsEmpty (layout : Layout) (path : Path) : Prop :=
  (∃ found, layout.find .followed path = .ok found) ∨
    layout.find .followed path = .error .notFound ∧ layout.isLink path = true

variable {layout : Layout} {path : Path}

theorem findings_of_noDirectory (absent : layout.NoDirectory path) :
    layout.findings path =
      match layout.find .followed path with
      | .ok _ => []
      | .error cause => [layout.unreachable path cause] := by
  unfold findings
  rcases layout.find_kept_eq_or_link path with same | ⟨link, target, kept⟩
  · rw [same]
    cases found : layout.find .followed path with
    | error cause => rfl
    | ok reached =>
      obtain ⟨place, node⟩ := reached
      cases node with
      | directory access => exact absurd found (absent place access)
      | file _ _ | device => rfl
      | link target => simp [examineLink, found, Node.kind]
  · rw [kept]
    cases found : layout.find .followed path with
    | error cause =>
      by_cases forgiven : cause = .notFound ∧ layout.isLink path = true <;>
        simp [examineLink, found, unreachable, forgiven]
    | ok reached =>
      obtain ⟨place, node⟩ := reached
      cases node with
      | directory access => exact absurd found (absent place access)
      | file _ _ | link _ | device => simp [examineLink, found, Node.kind]

end Layout

namespace Namespace

variable {layout : Layout} {path : Path}

theorem load_eq_error_iff {error : ListingError} :
    (Namespace.load layout path).value = .error error ↔
      (layout.list path).failure? = some error := by
  unfold load
  simp only
  split
  next failed => simp [failed]
  next complete => simp [complete]

theorem load_of_seemsEmpty (absent : layout.NoDirectory path)
    (empty : layout.SeemsEmpty path) : (Namespace.load layout path).value = .ok ⟨path, []⟩ := by
  rw [load_eq_ok_iff, Layout.Lists, Layout.findings_of_noDirectory absent]
  rcases empty with ⟨reached, found⟩ | ⟨missing, linked⟩
  · simp [found]
  · simp [missing, Layout.unreachable, linked, Finding.failure?, Finding.page?]

theorem load_of_not_seemsEmpty (absent : layout.NoDirectory path)
    (notEmpty : ¬layout.SeemsEmpty path) :
    ∃ cause, layout.find .followed path = .error cause ∧
      (Namespace.load layout path).value = .error (.unreadable path cause) := by
  unfold Layout.SeemsEmpty at notEmpty
  cases found : layout.find .followed path with
  | ok reached => exact absurd (.inl ⟨reached, found⟩) notEmpty
  | error cause =>
    refine ⟨cause, rfl, ?_⟩
    have failed : layout.unreachable path cause = .failed (.unreadable path cause) := by
      rw [Layout.unreachable, if_neg]
      rintro ⟨rfl, linked⟩
      exact notEmpty (.inr ⟨found, linked⟩)
    rw [load_eq_error_iff, Layout.list, Layout.findings_of_noDirectory absent, found]
    simp [Listing.ofFindings, failed, Finding.failure?]

theorem openDirectory_or_seemsEmpty_of_load {pages : Namespace}
    (loaded : (Namespace.load layout path).value = .ok pages) :
    (layout.Lists path ∧ ∃ place, layout.openDirectory path = .ok place) ∨
      layout.NoDirectory path ∧ layout.SeemsEmpty path := by
  by_cases absent : layout.NoDirectory path
  · refine .inr ⟨absent, Classical.byContradiction fun notEmpty => ?_⟩
    obtain ⟨cause, -, failed⟩ := load_of_not_seemsEmpty absent notEmpty
    rw [loaded] at failed
    contradiction
  · simp only [Layout.NoDirectory, ne_eq, not_forall, not_not] at absent
    obtain ⟨place, access, found⟩ := absent
    have lists := (load_eq_ok_iff.1 loaded).1
    exact .inl ⟨lists, place, lists.openDirectory found⟩

end Namespace

end BrokenLinks
