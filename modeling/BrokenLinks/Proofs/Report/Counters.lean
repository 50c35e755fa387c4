import BrokenLinks.Report
import Mathlib

/-! The counters of a report, counted anew from what it records. -/

set_option autoImplicit false

namespace BrokenLinks

/-- What the counters come to when exactly these files are recorded. -/
def Totals.ofFiles (files : List FileReport) : Totals where
  filesProcessed := files.length
  filesChanged := files.countP FileReport.isChanged
  linksChanged := (files.map FileReport.changes).sum

theorem Totals.add_ofFiles_cons (totals : Totals) (file : FileReport) (files : List FileReport) :
    totals.add (.ofFiles (file :: files)) = (totals.record file).add (.ofFiles files) := by
  simp only [add, ofFiles, record, List.length_cons, List.countP_cons, List.map_cons,
    List.sum_cons, mk.injEq]
  omega

theorem Totals.ofFiles_append (first second : List FileReport) :
    ofFiles (first ++ second) = (ofFiles first).add (ofFiles second) := by
  simp [ofFiles, add]

theorem Totals.ofFiles_concat (files : List FileReport) (file : FileReport) :
    ofFiles (files ++ [file]) = (ofFiles files).record file := by
  simp [ofFiles, record, List.countP_singleton]

theorem Totals.filesChanged_ofFiles_pos_iff {files : List FileReport} :
    0 < (ofFiles files).filesChanged ↔ ∃ file ∈ files, 0 < file.changes := by
  simp [ofFiles, List.countP_pos_iff, FileReport.isChanged]

theorem Totals.linksChanged_ofFiles_pos_iff {files : List FileReport} :
    0 < (ofFiles files).linksChanged ↔ ∃ file ∈ files, 0 < file.changes := by
  simp [ofFiles, Nat.pos_iff_ne_zero, List.sum_eq_zero_iff]

@[simp] theorem path_foldl_record (files : List FileReport) (report : SubdirectoryReport) :
    (files.foldl .record report).path = report.path := by
  induction files generalizing report with
  | nil => rfl
  | cons file files ih => exact ih _

@[simp] theorem files_foldl_record (files : List FileReport) (report : SubdirectoryReport) :
    (files.foldl .record report).files = report.files ++ files := by
  induction files generalizing report with
  | nil => simp
  | cons file files ih => simp [ih, SubdirectoryReport.record]

theorem totals_foldl_record (files : List FileReport) (report : SubdirectoryReport) :
    (files.foldl .record report).totals = report.totals.add (.ofFiles files) := by
  induction files generalizing report with
  | nil => rfl
  | cons file files ih =>
    rw [List.foldl_cons, ih, Totals.add_ofFiles_cons]
    rfl

@[simp] theorem totals_foldl_record_new (files : List FileReport) (path : Path) :
    (files.foldl .record (SubdirectoryReport.new path)).totals = .ofFiles files := by
  rw [totals_foldl_record]
  simp [SubdirectoryReport.new, Totals.add, Totals.zero]

@[simp] theorem subdirectories_foldl_push (reports : List SubdirectoryReport)
    (report : RunReport) :
    (reports.foldl .push report).subdirectories = report.subdirectories ++ reports := by
  induction reports generalizing report with
  | nil => simp
  | cons subdirectory reports ih => simp [ih, RunReport.push]

theorem counter_foldl_push (counter : Totals → Nat)
    (counts : ∀ first second : Totals, counter (first.add second) = counter first + counter second)
    (reports : List SubdirectoryReport) (report : RunReport) :
    counter (reports.foldl .push report).totals =
      counter report.totals + (reports.map fun report => counter report.totals).sum := by
  induction reports generalizing report with
  | nil => rfl
  | cons subdirectory reports ih =>
    rw [List.foldl_cons, ih, List.map_cons, List.sum_cons, ← Nat.add_assoc]
    exact congrArg (· + _) (counts report.totals subdirectory.totals)

end BrokenLinks
