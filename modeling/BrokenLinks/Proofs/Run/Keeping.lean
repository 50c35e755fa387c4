import BrokenLinks.Proofs.FileTree.Shown
import BrokenLinks.Proofs.Repair.Kept
import BrokenLinks.Proofs.Run.Sequence
import BrokenLinks.Proofs.Text.Measure

/-! Links that the repair of a page leaves as they are.

The entries of a directory decide which links lead to its files; a repair decides by the namespace
that has been found there. The two agree on every link with a stem, so a page that is written
differs from what was read in the other links and where a placeholder is spelled. -/

set_option autoImplicit false

namespace BrokenLinks

/-- The link leads out of the tree, or to an entry of the directory that is or leads to a file. -/
def Link.LedIn (layout : Layout) (directory : Path) (link : Link) : Prop :=
  link.Led fun fileName => layout.HoldsFile directory (Bytes.ofString (String.ofList fileName))

theorem Link.isPage_fileName {link : Link} (some : link.stem ≠ []) :
    Finding.isPage (Bytes.ofString (String.ofList link.fileName)) = true := by
  have long := mt Text.utf8Length_eq_zero_iff.1 some
  have length : (Bytes.ofString (String.ofList link.fileName)).length =
      Text.utf8Length link.stem + 3 := by
    rw [Text.length_ofString, String.toList_ofList, fileName, Text.utf8Length_append]
    rfl
  have ends : Bytes.ofString ".md" <:+ Bytes.ofString (String.ofList link.fileName) := by
    rw [fileName, String.ofList_append, Text.ofString_append]
    exact List.suffix_append _ _
  rw [Finding.isPage, List.isSuffixOf_iff_suffix.2 ends, length]
  simp only [Bool.and_true, gt_iff_lt, decide_eq_true_eq]
  omega

theorem Link.LedIn.led {layout : Layout} {directory : Path} {pages : Namespace} {link : Link}
    (loaded : (Namespace.load layout directory).value = .ok pages)
    (led : link.LedIn layout directory) (some : link.stem ≠ []) :
    link.Led (pages.contains · = true) := by
  refine led.imp_right fun holds => List.contains_iff_mem.2 ?_
  exact Namespace.mem_names_of_holdsFile loaded holds (isPage_fileName some)

theorem Run.written_or_refused {state ended : RunState} {pages : Namespace} {name text : String}
    {outcome : Except Failure FileReport}
    (read : state.tree.readText (pages.filePath name) = .ok text)
    (settled : (repairPage pages .apply name).settle state = (outcome, ended)) :
    (∃ file, outcome = .ok file ∧ ended.tree.readText (pages.filePath name) =
        .ok (String.ofList (Repair.ofText pages.contains text.toList).text)) ∨
      ∃ cause, outcome = .error (.writing (pages.filePath name) cause) ∧
        ended.tree = state.tree := by
  let visit : Visit := ⟨pages, name⟩
  obtain ⟨sameOutcome, sameTree⟩ := (tells_repairPage pages .apply name).of_settle settled
  rw [Namespace.pageStory] at sameOutcome sameTree
  cases done : pages.repairPage .apply state.tree name with
  | ok made =>
    obtain ⟨file, written⟩ := made
    simp only [done, Story.outcome_quiet, Story.tree_quiet] at sameOutcome sameTree
    obtain ⟨-, -, -, rfl⟩ := visit.repairPage_eq done
    have left := @FileTree.readText_replay_self _ visit _ read
    exact .inl ⟨file, sameOutcome.symm, sameTree ▸ left⟩
  | error failure =>
    simp only [done, Story.outcome_quiet, Story.tree_quiet] at sameOutcome sameTree
    rcases (@Visit.repairPage_eq_error_iff visit _ _ _).1 done with
      ⟨cause, unread, -⟩ | ⟨-, cause, -, -, -, rfl⟩
    · exact absurd (read.symm.trans unread) (by simp)
    · exact .inr ⟨cause, sameOutcome.symm, sameTree.symm⟩

/-- A page is repaired part by part: a link that leads out of the tree, or whose stem and `.md` are
the name of a file in the directory, stays as it is exactly if no placeholder is spelled in it. -/
theorem Run.repairPage_keeps {state : RunState} {directory : Path} {pages : Namespace}
    {name text : String}
    (loaded : (Namespace.load state.tree.layout directory).value = .ok pages)
    (read : state.tree.readText (pages.filePath name) = .ok text) :
    let document := Document.ofText text.toList
    document.toText = text.toList ∧
      (∀ link ∈ document.links, link.LedIn state.tree.layout directory → link.stem ≠ [] →
        (link.replacement pages.contains = link.toText ↔ link.Unmarked)) ∧
      (∃ repair, pages.draft state.tree name = .ok repair ∧
        repair.text = document.repaired pages.contains) ∧
      ∀ outcome ended, (repairPage pages .apply name).settle state = (outcome, ended) →
        (∃ file, outcome = .ok file ∧ ended.tree.readText (pages.filePath name) =
          .ok (String.ofList (document.repaired pages.contains))) ∨
        ∃ cause, outcome = .error (.writing (pages.filePath name) cause) ∧
          ended.tree = state.tree := by
  intro document
  have same := Repair.text_ofText_eq_repaired pages.contains text.toList
  refine ⟨Document.toText_ofText _, fun link _ led some => ?_, ?_, fun outcome ended settled => ?_⟩
  · exact Link.replacement_eq_toText_iff (led.led loaded some)
  · exact ⟨_, by rw [Namespace.draft, read], same⟩
  · rw [← same]
    exact written_or_refused read settled

theorem Run.repairPage_keeps_aliased :
    let directory : Path := .ofString "docs/b"
    let pages : Namespace := ⟨directory, ["Q2.md"]⟩
    let link : Link := ⟨"x".toList, "Q2".toList⟩
    (Namespace.load aliasedTree.layout directory).value = .ok pages ∧
      aliasedTree.readText (pages.filePath "Q2.md") = .ok "[y](Q1.md) [x](Q2.md)" ∧
      link.LedIn aliasedTree.layout directory ∧
      link.replacement pages.contains = link.toText ∧
      ∃ repair, pages.draft aliasedTree "Q2.md" = .ok repair ∧
        repair.text = "[y](https://www.wikidata.org/wiki/Q1) [x](Q2.md)".toList := by
  intro directory pages link
  have loaded : (Namespace.load aliasedTree.layout directory).value = .ok pages := by cbv
  have read : aliasedTree.readText (pages.filePath "Q2.md") = .ok "[y](Q1.md) [x](Q2.md)" := by cbv
  have led : link.LedIn aliasedTree.layout directory := by
    refine .inr ⟨[Bytes.ofString "b", Bytes.ofString "docs"], .unrestricted, ?_,
      .inr ⟨⟨.ofString "../a/Q1.md", ?_⟩, 0, ?_⟩⟩
    all_goals decide +kernel
  obtain ⟨-, keeps, ⟨repair, drafted, same⟩, -⟩ :=
    @repairPage_keeps (.start aliasedTree) _ _ _ _ loaded read
  refine ⟨loaded, read, led, (keeps link (by decide +kernel) led (by decide)).2 ?_,
    repair, drafted, ?_⟩
  · decide +kernel
  · rw [same]
    decide +kernel

def markedTree : FileTree where
  layout := {
    entries :=
      let docs := Bytes.ofString "docs"
      [([], .directory .unrestricted), ([docs], .directory .unrestricted),
        ([Bytes.ofString "Q1.md", docs], .file 0 .unrestricted),
        ([Bytes.ofString "!.md", docs], .file 1 .unrestricted),
        ([Bytes.ofString ".md", docs], .file 2 .unrestricted)]
    workingDirectory := []
    distinct := by decide }
  contents
    | 0 => Bytes.ofString "[x](!.md) [y](.md) [!](https://www.wikidata.org/wiki/!) z](Q9.md)"
    | _ => []

/-- Two links to files of the directory are lost, and so is one that leads out of the tree. -/
theorem Run.repairPage_alters_marked :
    let pages : Namespace := ⟨.ofString "docs", ["!.md", "Q1.md"]⟩
    let before := "[x](!.md) [y](.md) [!](https://www.wikidata.org/wiki/!) z](Q9.md)"
    let after := "[x](https://www.wikidata.org/wiki/Q363948) ".toList ++
      "[y](https://www.wikidata.org/wiki/) ".toList ++
      "[Q363948](https://www.wikidata.org/wiki/Q363948) z](Q9.md)".toList
    (Namespace.load markedTree.layout (.ofString "docs")).value = .ok pages ∧
      markedTree.readText (pages.filePath "Q1.md") = .ok before ∧
      (∃ file ended,
        (repairPage pages .apply "Q1.md").settle (.start markedTree) = (.ok file, ended) ∧
          ended.tree.readText (pages.filePath "Q1.md") = .ok (String.ofList after)) ∧
      (Document.ofText before.toList).links.length = 3 ∧
      ∀ link ∈ (Document.ofText before.toList).links,
        link.LedIn markedTree.layout (.ofString "docs") ∧ ¬ link.toText <:+: after := by
  intro pages before after
  have read : markedTree.readText (pages.filePath "Q1.md") = .ok before := by cbv
  have links : (Document.ofText before.toList).links = [⟨"x".toList, "!".toList⟩,
      ⟨"y".toList, []⟩, ⟨"!".toList, "https://www.wikidata.org/wiki/!) z](Q9".toList⟩] := by
    decide +kernel
  have held (id : FileId) (name : Name)
      (entry : markedTree.layout.node? [name, Bytes.ofString "docs"] =
        some (.file id .unrestricted)) :
      markedTree.layout.HoldsFile (.ofString "docs") name :=
    ⟨[Bytes.ofString "docs"], .unrestricted, by decide +kernel, .inl ⟨id, .unrestricted, entry⟩⟩
  obtain ⟨file, ended, done⟩ := exists_ok_of_isOk (show
    ((repairPage pages .apply "Q1.md").settle (.start markedTree)).1.isOk = true by cbv)
  refine ⟨by cbv, read, ⟨file, ended, done, ?_⟩, by rw [links]; rfl, ?_⟩
  · obtain ⟨-, -, written⟩ | ⟨cause, refused, -⟩ :=
      @written_or_refused (.start markedTree) _ _ _ _ _ read done
    · have text : (Repair.ofText pages.contains before.toList).text = after := by decide +kernel
      rw [written, text]
    · contradiction
  · rw [links]
    simp only [List.forall_mem_cons]
    refine ⟨⟨.inr (held 1 _ ?_), ?_⟩, ⟨.inr (held 2 _ ?_), ?_⟩, ⟨.inl ?_, ?_⟩, by simp⟩
    all_goals decide +kernel

end BrokenLinks
