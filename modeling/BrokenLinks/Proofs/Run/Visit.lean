import BrokenLinks.Proofs.Repair.Settlement
import BrokenLinks.Proofs.Run.Story

/-! Visits to the pages of namespaces, and what a sequence of them makes of a tree.

A page can lead to a file that has other names, in the same directory or elsewhere. Each file is
repaired once by each visit that leads to it, in the order of the visits and under the namespace of
each; what leads where is settled by the layout, which no visit changes. -/

set_option autoImplicit false

namespace BrokenLinks

structure Visit where
  pages : Namespace
  name : String

namespace Visit

def path (visit : Visit) : Path :=
  visit.pages.filePath visit.name

def leadsTo (layout : Layout) (file : FileId) (visit : Visit) : Bool :=
  layout.file? visit.path = some file

def repair (visit : Visit) (text : String) : Repair :=
  .ofText visit.pages.contains text.toList

def rewrite (bytes : Bytes) (visit : Visit) : Bytes :=
  match bytes.text? with
  | some text => Bytes.ofString (String.ofList (visit.repair text).text)
  | none => bytes

theorem rewrite_ofString (visit : Visit) (text : String) :
    rewrite (Bytes.ofString text) visit =
      Bytes.ofString (String.ofList (visit.repair text).text) := by
  simp only [rewrite, Bytes.text?_eq_some_iff.2 rfl]

theorem rewrite_of_unchanged {visit : Visit} {text : String}
    (unchanged : (visit.repair text).changes = 0) :
    rewrite (Bytes.ofString text) visit = Bytes.ofString text := by
  rw [rewrite_ofString, repair, Repair.text_eq_of_changes_eq_zero unchanged, String.ofList_toList]

end Visit

namespace Namespace

def visits (pages : Namespace) : List Visit :=
  pages.names.map (⟨pages, ·⟩)

end Namespace

namespace FileTree

variable {tree : FileTree} {path : Path}

def replay (tree : FileTree) (visits : List Visit) : FileTree where
  layout := tree.layout
  contents file :=
    (visits.filter (·.leadsTo tree.layout file)).foldl Visit.rewrite (tree.contents file)

@[simp] theorem layout_replay (tree : FileTree) (visits : List Visit) :
    (tree.replay visits).layout = tree.layout := rfl

@[simp] theorem replay_nil (tree : FileTree) : tree.replay [] = tree := rfl

theorem replay_append (tree : FileTree) (first second : List Visit) :
    tree.replay (first ++ second) = (tree.replay first).replay second := by
  simp [replay, List.filter_append, List.foldl_append]

theorem replay_cons (tree : FileTree) (visit : Visit) (visits : List Visit) :
    tree.replay (visit :: visits) = (tree.replay [visit]).replay visits :=
  tree.replay_append [visit] visits

end FileTree

/-! ## Opening, reading and writing -/

def Opened.file? : Opened → Option FileId
  | .file id => some id
  | .device => none

namespace Layout

variable {layout : Layout} {path : Path} {opened : Opened}

theorem file?_of_open
    (found : layout.openToRead path = .ok opened ∨ layout.openToWrite path = .ok opened) :
    layout.file? path = opened.file? := by
  unfold openToRead openToWrite at found
  unfold file?
  -- All three look up the same place, and differ only in what they refuse to open there.
  cases reached : layout.find .followed path with
  | error cause => simp [reached, bind, Except.bind] at found
  | ok place =>
    simp only [reached, bind, Except.bind, pure, Except.pure, throw, throwThe,
      MonadExceptOf.throw] at found
    rcases found with found | found <;> repeat' split at found
    all_goals simp_all [Opened.file?]
    all_goals subst found; rfl

end Layout

namespace FileTree

variable {tree written : FileTree} {path : Path} {opened : Opened} {text : String}

theorem read_eq_elim (tree : FileTree) (opened : Opened) :
    tree.read opened = opened.file?.elim [] tree.contents := by
  cases opened <;> rfl

theorem write_eq (tree : FileTree) (opened : Opened) (bytes : Bytes) :
    tree.write opened bytes = ⟨tree.layout, fun file =>
      if opened.file? = some file then bytes else tree.contents file⟩ := by
  cases opened with
  | file id => simp [write, Opened.file?, eq_comm]
  | device => simp [write, Opened.file?]

theorem readText_eq_ok_iff : tree.readText path = .ok text ↔
    ∃ opened, tree.layout.openToRead path = .ok opened ∧
      tree.read opened = Bytes.ofString text := by
  unfold readText
  cases tree.layout.openToRead path with
  | error cause => simp [bind, Except.bind]
  | ok opened =>
    cases decoded : (tree.read opened).text? with
    | none =>
      have undecoded : tree.read opened ≠ Bytes.ofString text := fun same => by
        simp [Bytes.text?_eq_some_iff.2 same] at decoded
      simp [bind, Except.bind, decoded, undecoded, throw, throwThe, MonadExceptOf.throw]
    | some text' =>
      have same : tree.read opened = Bytes.ofString text ↔ text' = text := by
        rw [← Bytes.text?_eq_some_iff, decoded, Option.some.injEq]
      simp [bind, Except.bind, decoded, same, pure, Except.pure]

theorem contents_of_readText (found : tree.readText path = .ok text) {file : FileId}
    (leads : tree.layout.file? path = some file) : tree.contents file = Bytes.ofString text := by
  obtain ⟨opened, opens, holds⟩ := readText_eq_ok_iff.1 found
  rw [Layout.file?_of_open (.inl opens)] at leads
  rw [read_eq_elim, leads] at holds
  exact holds

theorem overwrite_eq (wrote : tree.overwrite path text = .ok written) :
    written = ⟨tree.layout, fun file =>
      if tree.layout.file? path = some file then Bytes.ofString text else tree.contents file⟩ := by
  unfold overwrite at wrote
  cases opening : tree.layout.openToWrite path with
  | error cause => simp [opening, bind, Except.bind] at wrote
  | ok opened =>
    simp only [opening, bind, Except.bind, pure, Except.pure, Except.ok.injEq] at wrote
    rw [← wrote, write_eq, Layout.file?_of_open (.inr opening)]

end FileTree

/-! ## One visit -/

namespace Visit

variable {visit : Visit} {tree written : FileTree}

theorem replay_singleton (tree : FileTree) (visit : Visit) :
    tree.replay [visit] = ⟨tree.layout, fun file =>
      if tree.layout.file? visit.path = some file then rewrite (tree.contents file) visit
      else tree.contents file⟩ := by
  unfold FileTree.replay
  congr 1
  funext file
  by_cases leads : tree.layout.file? visit.path = some file <;>
    simp [leadsTo, leads]

theorem repairPage_eq_ok_iff {mode : WriteMode} {file : FileReport} :
    visit.pages.repairPage mode tree visit.name = .ok (file, written) ↔
      ∃ text, tree.readText visit.path = .ok text ∧
        file = ⟨visit.name, (visit.repair text).changes⟩ ∧
        if (visit.repair text).needsWrite mode then
          visit.pages.write tree visit.name (visit.repair text) = .ok written
        else written = tree := by
  unfold Namespace.repairPage Namespace.draft
  rw [← path]
  cases tree.readText visit.path with
  | error cause => simp [bind, Except.bind]
  | ok text =>
    simp only [bind, Except.bind, pure, Except.pure, Except.ok.injEq, exists_eq_left']
    rw [← repair]
    by_cases needed : (visit.repair text).needsWrite mode
    · cases visit.pages.write tree visit.name (visit.repair text) <;> simp [needed, eq_comm]
    · simp [needed, eq_comm]

theorem write_eq {repair : Repair}
    (wrote : visit.pages.write tree visit.name repair = .ok written) :
    tree.overwrite visit.path (String.ofList repair.text) = .ok written := by
  unfold Namespace.write at wrote
  rw [← path] at wrote
  split at wrote
  next found =>
    cases wrote
    exact found
  next => contradiction

theorem replay_of_unchanged {text : String} (found : tree.readText visit.path = .ok text)
    (unchanged : (visit.repair text).changes = 0) : tree.replay [visit] = tree := by
  rw [replay_singleton]
  obtain ⟨layout, contents⟩ := tree
  congr 1
  funext file
  split
  next leads =>
    have same : contents file = Bytes.ofString text := FileTree.contents_of_readText found leads
    show rewrite (contents file) visit = contents file
    rw [same, rewrite_of_unchanged unchanged]
  next => rfl

/-- A visit that succeeds rewrites the file that it leads to, and reports how many changes the
repair of its text makes. -/
theorem repairPage_eq (visit : Visit) {file : FileReport}
    (done : visit.pages.repairPage .apply tree visit.name = .ok (file, written)) :
    ∃ text, tree.readText visit.path = .ok text ∧
      file = ⟨visit.name, (visit.repair text).changes⟩ ∧ written = tree.replay [visit] := by
  obtain ⟨text, found, reported, wrote⟩ := repairPage_eq_ok_iff.1 done
  refine ⟨text, found, reported, ?_⟩
  split at wrote
  case isTrue needed =>
    rw [FileTree.overwrite_eq (write_eq wrote), replay_singleton]
    congr 1
    funext id
    split
    next leads => rw [FileTree.contents_of_readText found leads, rewrite_ofString]
    next => rfl
  case isFalse needless =>
    -- Nothing is written, but then the repair has given the text back as it was.
    have unchanged : (visit.repair text).changes = 0 := by
      simpa [Repair.needsWrite, Repair.isChanged] using needless
    rw [wrote, replay_of_unchanged found unchanged]

end Visit

/-! ## What is read after a visit -/

namespace FileTree

variable {tree : FileTree} {visit : Visit} {text : String}

theorem read_replay_file (tree : FileTree) (visit : Visit) (file : FileId) :
    (tree.replay [visit]).read (.file file) =
      if tree.layout.file? visit.path = some file then Visit.rewrite (tree.contents file) visit
      else tree.contents file := by
  rw [Visit.replay_singleton]
  rfl

/-- After a visit, a page has its repaired text if it leads to the same file, and the text that it
had otherwise. -/
theorem readText_replay {path : Path} {text' : String} (found : tree.readText visit.path = .ok text)
    (found' : tree.readText path = .ok text') :
    (tree.replay [visit]).readText path = .ok text' ∨ text' = text ∧
      (tree.replay [visit]).readText path = .ok (String.ofList (visit.repair text).text) := by
  obtain ⟨opened, opens, holds⟩ := readText_eq_ok_iff.1 found'
  simp only [readText_eq_ok_iff, layout_replay]
  cases opened with
  | device => exact .inl ⟨.device, opens, holds⟩
  | file file =>
    by_cases leads : tree.layout.file? visit.path = some file
    · have same : tree.contents file = Bytes.ofString text := contents_of_readText found leads
      refine .inr ⟨Bytes.ofString_injective (holds.symm.trans same), .file file, opens, ?_⟩
      rw [read_replay_file, if_pos leads, same, Visit.rewrite_ofString]
    · refine .inl ⟨.file file, opens, ?_⟩
      rw [read_replay_file, if_neg leads]
      exact holds

theorem readText_replay_self (found : tree.readText visit.path = .ok text) :
    (tree.replay [visit]).readText visit.path =
      .ok (String.ofList (visit.repair text).text) := by
  obtain ⟨opened, opens, holds⟩ := readText_eq_ok_iff.1 found
  rw [readText_eq_ok_iff, layout_replay]
  cases opened with
  | device =>
    -- A device reads as empty before and after, and so does the repair of the empty text.
    have empty : text = "" := Bytes.ofString_injective holds.symm
    refine ⟨.device, opens, ?_⟩
    rw [empty, Visit.repair, String.toList_empty, Repair.text_ofText_nil]
    rfl
  | file file =>
    have leads : tree.layout.file? visit.path = some file := Layout.file?_of_open (.inl opens)
    have same : tree.contents file = Bytes.ofString text := holds
    refine ⟨.file file, opens, ?_⟩
    rw [read_replay_file, if_pos leads, same, Visit.rewrite_ofString]

end FileTree

end BrokenLinks
