import BrokenLinks.Link
import BrokenLinks.Proofs.FileTree.Entry
import BrokenLinks.Proofs.Text.Measure
import Mathlib

/-! A loaded namespace holds the pages of its directory and nothing else.

What counts are the entries of the directory alone: their names, and what they are or lead to. A
name without a slash cannot be spelled by a link that has one, so a link into another directory
leads to no page. -/

set_option autoImplicit false

namespace BrokenLinks

/-- The name is text and ends in `.md` after something else, and there is a file under it or a link
that leads to one. -/
structure Layout.IsPage (layout : Layout) (directory : Location) (name : Name) : Prop where
  text : ∃ text, Bytes.text? name = some text
  ending : ∃ before, before ≠ [] ∧ name = before ++ Bytes.ofString ".md"
  file : ∃ goal id access, layout.Provides directory name goal (.file id access)

theorem Bytes.slash_mem_ofString {text : String} (mem : '/' ∈ text.toList) :
    slash ∈ ofString text := by
  obtain ⟨before, after, split⟩ := List.append_of_mem mem
  have spelled : text = String.ofList before ++ "/" ++ String.ofList after :=
    String.toList_inj.1 (by simp [split])
  have written : ofString "/" = [slash] := by decide
  simp [spelled, Text.ofString_append, written]

theorem Node.kind_eq_file_iff {node : Node} :
    node.kind = .file ↔ ∃ id access, node = .file id access := by
  cases node <;> simp [kind]

namespace Finding

theorem isPage_iff {name : Name} :
    isPage name = true ↔ ∃ before, before ≠ [] ∧ name = before ++ Bytes.ofString ".md" := by
  have three : (Bytes.ofString ".md").length = 3 := by decide
  rw [isPage, Bool.and_eq_true, decide_eq_true_eq, List.isSuffixOf_iff_suffix]
  constructor
  · rintro ⟨long, before, rfl⟩
    refine ⟨before, ?_, rfl⟩
    rintro rfl
    simp [three] at long
  · rintro ⟨before, some, rfl⟩
    have longer := List.length_pos_iff.2 some
    exact ⟨by rw [List.length_append]; omega, List.suffix_append _ _⟩

end Finding

namespace Namespace

variable {layout : Layout} {path : Path} {place : Location} {access : Access} {pages : Namespace}

theorem mem_names_iff (wellFormed : layout.WellFormed)
    (opened : layout.openDirectory path = .ok place)
    (loaded : (Namespace.load layout path).value = .ok pages) {name : String} :
    name ∈ pages.names ↔ layout.IsPage place (Bytes.ofString name) := by
  obtain ⟨lists, -, shown⟩ := load_eq_ok_iff_showsPages.1 loaded
  rw [shown.shown, Finding.isPage_iff, lists.shows_iff wellFormed opened]
  constructor
  · rintro ⟨ending, goal, node, provides, file⟩
    obtain ⟨id, access, rfl⟩ := Node.kind_eq_file_iff.1 file
    exact ⟨⟨name, Bytes.text?_eq_some_iff.2 rfl⟩, ending, goal, id, access, provides⟩
  · rintro ⟨-, ending, goal, id, access, provides⟩
    exact ⟨ending, goal, _, provides, rfl⟩

theorem mem_map_names_iff (wellFormed : layout.WellFormed)
    (opened : layout.openDirectory path = .ok place)
    (loaded : (Namespace.load layout path).value = .ok pages) {name : Name} :
    name ∈ pages.names.map Bytes.ofString ↔ layout.IsPage place name := by
  rw [List.mem_map]
  constructor
  · rintro ⟨text, mem, rfl⟩
    exact (mem_names_iff wellFormed opened loaded).1 mem
  · intro page
    obtain ⟨text, spelled⟩ := page.text
    obtain rfl := Bytes.text?_eq_some_iff.1 spelled
    exact ⟨text, (mem_names_iff wellFormed opened loaded).2 page, rfl⟩

theorem ncard_pages (wellFormed : layout.WellFormed)
    (opened : layout.openDirectory path = .ok place)
    (loaded : (Namespace.load layout path).value = .ok pages) :
    {name | layout.IsPage place name}.ncard = pages.names.length := by
  have same : {name | layout.IsPage place name} =
      ((pages.names.map Bytes.ofString).toFinset : Set Name) := by
    ext name
    simp only [List.coe_toFinset]
    exact (mem_map_names_iff wellFormed opened loaded).symm
  have distinct : (pages.names.map Bytes.ofString).Nodup := (names_ascend loaded).2.nodup
  rw [same, Set.ncard_coe_finset, List.toFinset_card_of_nodup distinct, List.length_map]

theorem slash_not_mem_of_mem_names (wellFormed : layout.WellFormed)
    (opened : layout.openDirectory path = .ok place)
    (loaded : (Namespace.load layout path).value = .ok pages) {name : String}
    (mem : name ∈ pages.names) : '/' ∉ name.toList := by
  intro slash
  obtain ⟨goal, id, access, provides⟩ := ((mem_names_iff wellFormed opened loaded).1 mem).file
  exact (provides.isEntryName wellFormed).noSlash (Bytes.slash_mem_ofString slash)

/-- A namespace that has been loaded is exactly the pages of the directory. -/
theorem names_exact (accessible : layout.Accessible)
    (found : layout.find .followed path = .ok (place, .directory access))
    (loaded : (Namespace.load layout path).value = .ok pages) :
    (∀ fileName, pages.contains fileName = true ↔
      layout.IsPage place (Bytes.ofString (String.ofList fileName))) ∧
    (∀ name, name ∈ pages.names.map Bytes.ofString ↔ layout.IsPage place name) ∧
    (pages.names.map Bytes.ofString).Pairwise (· < ·) ∧
    pages.names.length = {name | layout.IsPage place name}.ncard ∧
    (∀ name ∈ pages.names, '/' ∉ name.toList) ∧
    (∀ link : Link, '/' ∈ link.stem → pages.contains link.fileName = false) ∧
    ∀ name ∈ pages.names, (pages.filePath name).bytes.length ≤ Layout.pathLimit →
      ∃ goal id access, layout.Provides place (Bytes.ofString name) goal (.file id access) ∧
        layout.file? (pages.filePath name) = some id := by
  have wellFormed := accessible.toWellFormed
  have opened := accessible.openDirectory found
  obtain ⟨samePath, ascend⟩ := names_ascend loaded
  refine ⟨fun fileName => ?_, fun name => mem_map_names_iff wellFormed opened loaded, ascend,
    (ncard_pages wellFormed opened loaded).symm,
    fun name => slash_not_mem_of_mem_names wellFormed opened loaded, fun link slash => ?_,
    fun name mem short => ?_⟩
  · rw [contains, List.contains_iff_mem]
    exact mem_names_iff wellFormed opened loaded
  · rw [contains, ← Bool.not_eq_true, List.contains_iff_mem]
    intro mem
    refine slash_not_mem_of_mem_names wellFormed opened loaded mem ?_
    simp [Link.fileName, slash]
  · obtain ⟨goal, id, access, provides⟩ := ((mem_names_iff wellFormed opened loaded).1 mem).file
    refine ⟨goal, id, access, provides, ?_⟩
    rw [filePath, samePath] at short ⊢
    rw [Layout.file?, accessible.find_join opened (load_eq_ok_iff.1 loaded).1 short provides]

end Namespace

/-- A directory, with a second path to it, in which names of every kind are: a page, a link to a
file by way of another link, names that only look like those of pages, and one that is no text. -/
def motleyLayout : Layout where
  entries :=
    let docs := [Bytes.ofString "docs"]
    let tree := Bytes.ofString "tree" :: docs
    [([], .directory .unrestricted), (docs, .directory .unrestricted),
      (Bytes.ofString "file" :: docs, .file 0 .unrestricted),
      (Bytes.ofString "also" :: docs, .link (.ofString "tree")),
      (tree, .directory .unrestricted),
      (Bytes.ofString "Q1.md" :: tree, .file 1 .unrestricted),
      (Bytes.ofString "Q2.md" :: tree, .link (.ofString "next")),
      (Bytes.ofString "next" :: tree, .link (.ofString "../file")),
      (Bytes.ofString "..md" :: tree, .file 2 .unrestricted),
      (Bytes.ofString ".md" :: tree, .file 3 .unrestricted),
      ((255 :: Bytes.ofString ".md") :: tree, .file 4 .unrestricted),
      (Bytes.ofString "old.md" :: tree, .directory .unrestricted),
      (Bytes.ofString "stale.md" :: tree, .link (.ofString "gone"))]
  workingDirectory := []
  distinct := by decide +kernel

theorem Namespace.names_exact_motley :
    let place := [Bytes.ofString "tree", Bytes.ofString "docs"]
    let pages : Namespace := ⟨.ofString "docs/also", ["..md", "Q1.md", "Q2.md"]⟩
    motleyLayout.Accessible ∧
      motleyLayout.find .followed pages.path = .ok (place, .directory .unrestricted) ∧
      (Namespace.load motleyLayout pages.path).value = .ok pages ∧
      motleyLayout.IsPage place (Bytes.ofString "Q2.md") ∧
      ¬motleyLayout.IsPage place (Bytes.ofString ".md") ∧
      {name | motleyLayout.IsPage place name}.ncard = 3 ∧
      ∃ id, motleyLayout.file? (pages.filePath "Q2.md") = some id := by
  intro place pages
  have accessible : motleyLayout.Accessible :=
    ⟨⟨by decide +kernel, by decide +kernel⟩, by decide +kernel, by decide +kernel⟩
  have found : motleyLayout.find .followed pages.path = .ok (place, .directory .unrestricted) := by
    decide +kernel
  have loaded : (Namespace.load motleyLayout pages.path).value = .ok pages := by cbv
  obtain ⟨-, exact, -, count, -, -, leads⟩ := names_exact accessible found loaded
  obtain ⟨-, id, -, -, file⟩ := leads "Q2.md" (by decide) (by decide +kernel)
  exact ⟨accessible, found, loaded, (exact _).1 (by decide +kernel),
    mt (exact _).2 (by decide +kernel), count.symm, id, file⟩

def onePageLayout : Layout where
  entries :=
    let docs := [Bytes.ofString "docs"]
    [([], .directory .unrestricted), (docs, .directory .unrestricted),
      (Bytes.ofString "Q1.md" :: docs, .file 0 .unrestricted)]
  workingDirectory := []
  distinct := by decide

def slashedDirectory : Path :=
  ⟨Bytes.ofString "docs" ++ List.replicate 4090 Bytes.slash⟩

theorem load_slashedDirectory
    (opened : onePageLayout.openDirectory slashedDirectory = .ok [Bytes.ofString "docs"]) :
    (Namespace.load onePageLayout slashedDirectory).value = .ok ⟨slashedDirectory, ["Q1.md"]⟩ := by
  have held : onePageLayout.children [Bytes.ofString "docs"] =
      [(Bytes.ofString "Q1.md", .file 0 .unrestricted)] := by cbv
  have page : Finding.page? (.entry (Bytes.ofString "Q1.md") .file) = some "Q1.md" := by cbv
  rw [Namespace.load_eq_ok_iff, Layout.Lists, Layout.findings_of_openDirectory opened, held]
  simp [Layout.examine, Node.kind, Finding.failure?, page]

/-- A page need not be found by the path of its directory and its name, which can be too long. -/
theorem Namespace.not_always_found_again :
    ¬∀ (layout : Layout) (path : Path) (place : Location) (access : Access) (pages : Namespace),
      layout.Accessible → layout.find .followed path = .ok (place, .directory access) →
      (Namespace.load layout path).value = .ok pages →
      ∀ name ∈ pages.names, ∃ id, layout.file? (pages.filePath name) = some id := by
  intro always
  have accessible : onePageLayout.Accessible :=
    ⟨⟨by decide +kernel, by decide +kernel⟩, by decide +kernel, by decide +kernel⟩
  have found : onePageLayout.find .followed slashedDirectory =
      .ok ([Bytes.ofString "docs"], .directory .unrestricted) := by
    decide +kernel
  have loaded := load_slashedDirectory (accessible.openDirectory found)
  have lost : onePageLayout.file? (slashedDirectory.join (Bytes.ofString "Q1.md")) = none := by
    decide +kernel
  obtain ⟨id, file⟩ := always _ _ _ _ _ accessible found loaded "Q1.md" List.mem_cons_self
  rw [Namespace.filePath, lost] at file
  cases file

end BrokenLinks
