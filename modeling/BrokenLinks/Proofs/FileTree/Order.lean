import BrokenLinks.Documentation
import Mathlib.Data.List.Nodup

/-! The order in which the entries of a directory are met.

The names in a listing strictly ascend, byte by byte. So do the names of the pages of a namespace,
which are taken from a listing. -/

set_option autoImplicit false

namespace BrokenLinks

theorem filterMap_sublist_filterMap {α β : Type} {fewer more : α → Option β}
    (kept : ∀ item value, fewer item = some value → more item = some value) (items : List α) :
    (items.filterMap fewer).Sublist (items.filterMap more) := by
  induction items with
  | nil => simp
  | cons item items ih =>
    cases found : fewer item with
    | some value => simpa [List.filterMap_cons, found, kept item value found] using ih
    | none =>
      rw [List.filterMap_cons_none found, List.filterMap_cons]
      split
      · exact ih
      · exact ih.trans (List.sublist_cons_self _ _)

namespace Finding

def name? : Finding → Option Name
  | .entry name _ => some name
  | _ => none

theorem name?_of_page? {finding : Finding} {page : String} (found : finding.page? = some page) :
    finding.name? = some (Bytes.ofString page) := by
  unfold page? at found
  split at found
  · split at found
    · rw [Bytes.text?_eq_some_iff.1 found, name?]
    · contradiction
  · contradiction

end Finding

namespace Layout

variable {layout : Layout}

theorem map_cons_sublist {directory : Location}
    {listed : Location × Node → Option (Name × Node)}
    (located : ∀ entry found, listed entry = some found → entry.1 = found.1 :: directory)
    (entries : List (Location × Node)) :
    (((entries.filterMap listed).map Prod.fst).map (· :: directory)).Sublist
      (entries.map Prod.fst) := by
  induction entries with
  | nil => simp
  | cons entry entries ih =>
    cases found : listed entry with
    | none =>
      rw [List.filterMap_cons_none found]
      exact ih.trans (List.sublist_cons_self _ _)
    | some child =>
      rw [List.filterMap_cons_some found]
      simpa [located entry child found] using ih

theorem children_nodup (layout : Layout) (directory : Location) :
    ((layout.children directory).map Prod.fst).Nodup := by
  refine ((List.mergeSort_perm _ _).map Prod.fst).nodup_iff.2 ?_
  -- Names that recur in the directory would be locations that recur in the layout.
  refine List.Nodup.of_map (· :: directory) ?_
  refine (map_cons_sublist ?_ layout.entries).nodup layout.distinct
  rintro ⟨location, node⟩ found listed
  cases location with
  | nil => contradiction
  | cons name parent =>
    simp only [Option.ite_none_right_eq_some, Option.some.injEq] at listed
    rw [← listed.1, ← listed.2]

theorem children_ascend (layout : Layout) (directory : Location) :
    ((layout.children directory).map Prod.fst).Pairwise (· < ·) := by
  have transitive (first second third : Name × Node) :
      decide (first.1 ≤ second.1) = true → decide (second.1 ≤ third.1) = true →
        decide (first.1 ≤ third.1) = true := by
    simpa using List.le_trans
  have total (first second : Name × Node) :
      (decide (first.1 ≤ second.1) || decide (second.1 ≤ first.1)) = true := by
    simpa using List.le_total first.1 second.1
  have sorted : (layout.children directory).Pairwise fun first second => first.1 ≤ second.1 := by
    simpa [children] using List.pairwise_mergeSort transitive total _
  -- The sort orders the names up to equality, and no two of them are equal.
  have both := (List.pairwise_map.2 sorted).and (children_nodup layout directory)
  exact both.imp fun different => Std.lt_of_le_of_ne different.1 different.2

theorem name_eq_of_examine {directory : Path} {place : Location} {name name' : Name} {node : Node}
    (found : (layout.examine directory place name node).name? = some name') : name' = name := by
  unfold examine examineLink unreachable at found
  repeat' split at found
  all_goals simp_all [Finding.name?]

theorem findings_ascend (layout : Layout) (path : Path) :
    ((layout.findings path).filterMap Finding.name?).Pairwise (· < ·) := by
  have examined (place : Location) :
      (((layout.children place).map fun child =>
        layout.examine path place child.1 child.2).filterMap Finding.name?).Pairwise (· < ·) := by
    rw [List.filterMap_map]
    refine (children_ascend layout place).sublist ?_
    rw [← List.filterMap_eq_map]
    exact filterMap_sublist_filterMap
      (fun _ _ found => congrArg some (name_eq_of_examine found).symm) _
  have single (finding : Finding) : ([finding].filterMap Finding.name?).Pairwise (· < ·) := by
    rw [List.filterMap_cons]
    split <;> simp
  unfold findings
  simp only
  repeat' split
  all_goals first | exact single _ | exact examined _ | exact List.Pairwise.nil

theorem list_ascends (layout : Layout) (path : Path) :
    ((layout.list path).found.filterMap Finding.name?).Pairwise (· < ·) :=
  (findings_ascend layout path).sublist ((List.takeWhile_sublist _).filterMap _)

end Layout

theorem Namespace.names_ascend {layout : Layout} {path : Path} {pages : Namespace}
    (loaded : (Namespace.load layout path).value = .ok pages) :
    pages.path = path ∧ (pages.names.map Bytes.ofString).Pairwise (· < ·) := by
  unfold Namespace.load at loaded
  simp only at loaded
  split at loaded
  · contradiction
  · cases loaded
    refine ⟨rfl, (Layout.list_ascends layout path).sublist ?_⟩
    rw [List.map_filterMap]
    refine filterMap_sublist_filterMap (fun finding name found => ?_) _
    obtain ⟨text, page, rfl⟩ := Option.map_eq_some_iff.1 found
    exact Finding.name?_of_page? page

end BrokenLinks
