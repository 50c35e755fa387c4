import BrokenLinks.Proofs.Json.Grammar
import BrokenLinks.Proofs.Json.Reader
import BrokenLinks.Report

/-! Reports read back from the text in which they are printed. -/

set_option autoImplicit false

namespace BrokenLinks

namespace Json

inductive KeysDiffer : Json → Prop
  | bool (value : Bool) : KeysDiffer (.bool value)
  | number (value : Nat) : KeysDiffer (.number value)
  | string (value : String) : KeysDiffer (.string value)
  | array {items : List Json} : (∀ item ∈ items, KeysDiffer item) → KeysDiffer (.array items)
  | object {members : List (String × Json)} : (members.map Prod.fst).Nodup →
      (∀ member ∈ members, KeysDiffer member.2) → KeysDiffer (.object members)

def member? (key : String) : Json → Option Json
  | object members => members.lookup key
  | _ => none

def bool? : Json → Option Bool
  | bool value => some value
  | _ => none

def number? : Json → Option Nat
  | number value => some value
  | _ => none

def string? : Json → Option String
  | string value => some value
  | _ => none

def items? : Json → Option (List Json)
  | array items => some items
  | _ => none

end Json

/-! ### Reading reports -/

def FileReport.ofJson? (json : Json) : Option FileReport := do
  let name ← (← json.member? "name").string?
  let changes ← (← json.member? "changes").number?
  return ⟨name, changes⟩

def Totals.ofJson? (json : Json) : Option Totals := do
  let filesProcessed ← (← json.member? "files_processed").number?
  let filesChanged ← (← json.member? "files_changed").number?
  let linksChanged ← (← json.member? "links_changed").number?
  return ⟨filesProcessed, filesChanged, linksChanged⟩

def SubdirectoryReport.ofJson? (json : Json) : Option SubdirectoryReport := do
  let path ← (← json.member? "path").string?
  let files ← (← (← json.member? "files").items?).mapM FileReport.ofJson?
  return ⟨.ofString path, files.toArray, ← Totals.ofJson? json⟩

def RunReport.ofJson? (json : Json) : Option RunReport := do
  let root ← (← json.member? "root").string?
  let dryRun ← (← json.member? "dry_run").bool?
  let subdirectories ←
    (← (← json.member? "subdirectories").items?).mapM SubdirectoryReport.ofJson?
  return ⟨.ofString root, dryRun, subdirectories.toArray,
    ← Totals.ofJson? (← json.member? "totals")⟩

def RunReport.ofText? (text : String) : Option RunReport :=
  Json.read? text >>= RunReport.ofJson?

def RunReport.Textual (report : RunReport) : Prop :=
  report.root.bytes.text?.isSome ∧
    ∀ subdirectory ∈ report.subdirectories.toList, subdirectory.path.bytes.text?.isSome

instance (report : RunReport) : Decidable report.Textual :=
  inferInstanceAs (Decidable (_ ∧ _))

/-! ### Lists of which each item may be refused -/

section

variable {α β : Type} {write : α → Option β} {read : β → Option α} {items : List α}
  {written : List β}

theorem mapM_eq_some_iff_forall₂ :
    items.mapM write = some written ↔
      List.Forall₂ (fun item form => write item = some form) items written := by
  induction items generalizing written with
  | nil => simp [eq_comm]
  | cons item items ih =>
    rw [List.forall₂_cons_left_iff]
    simp only [List.mapM_cons, Option.bind_eq_bind, Option.bind_eq_some_iff, Option.pure_def,
      Option.some.injEq, ih]
    constructor
    · rintro ⟨form, done, forms, allDone, rfl⟩
      exact ⟨form, forms, done, allDone, rfl⟩
    · rintro ⟨form, forms, done, allDone, rfl⟩
      exact ⟨form, done, forms, allDone, rfl⟩

theorem isSome_mapM_iff : (items.mapM write).isSome ↔ ∀ item ∈ items, (write item).isSome := by
  induction items with
  | nil => simp
  | cons item items ih =>
    rw [List.forall_mem_cons, ← ih, List.mapM_cons]
    cases write item <;> cases items.mapM write <;> simp

theorem mapM_eq_some_of_mapM
    (back : ∀ item form, write item = some form → read form = some item)
    (done : items.mapM write = some written) : written.mapM read = some items :=
  mapM_eq_some_iff_forall₂.2
    ((mapM_eq_some_iff_forall₂.1 done).flip.imp fun form item => back item form)

theorem exists_of_mem_of_mapM (done : items.mapM write = some written) {form : β}
    (member : form ∈ written) : ∃ item ∈ items, write item = some form := by
  have alike := mapM_eq_some_iff_forall₂.1 done
  clear done
  induction alike with
  | nil => contradiction
  | cons first _ ih =>
    rcases List.mem_cons.1 member with rfl | inOthers
    · exact ⟨_, .head _, first⟩
    · obtain ⟨item, inside, done⟩ := ih inOthers
      exact ⟨item, .tail _ inside, done⟩

end

/-! ### Round trips -/

theorem FileReport.ofJson?_toJson (file : FileReport) : ofJson? file.toJson = some file := by
  simp [ofJson?, toJson, Json.member?, List.lookup_cons, Json.string?, Json.number?]

theorem FileReport.keysDiffer_toJson (file : FileReport) : file.toJson.KeysDiffer := by
  refine .object (show ["name", "changes"].Nodup by decide) ?_
  simp only [List.forall_mem_cons]
  exact ⟨.string _, .number _, by simp⟩

theorem Totals.keysDiffer_of_mem_members (totals : Totals) :
    ∀ member ∈ totals.members, member.2.KeysDiffer := by
  simp only [members, List.forall_mem_cons]
  exact ⟨.number _, .number _, .number _, by simp⟩

theorem SubdirectoryReport.ofJson?_of_toJson? {report : SubdirectoryReport} {json : Json}
    (done : report.toJson? = some json) : ofJson? json = some report := by
  obtain ⟨⟨path⟩, ⟨files⟩, totals⟩ := report
  simp only [toJson?, Option.bind_eq_bind, Option.bind_eq_some_iff, Option.pure_def,
    Option.some.injEq] at done
  obtain ⟨text, isText, rfl⟩ := done
  have readFiles : (files.map FileReport.toJson).mapM FileReport.ofJson? = some files := by
    rw [List.mapM_map]
    simpa [Function.comp_def, FileReport.ofJson?_toJson] using
      List.mapM_pure (m := Option) (l := files) (f := id)
  simp [ofJson?, Json.member?, List.lookup_cons, Json.string?, Json.items?, Totals.ofJson?,
    Totals.members, Json.number?, readFiles, Path.ofString, Bytes.text?_eq_some_iff.1 isText]

theorem SubdirectoryReport.keysDiffer_of_toJson? {report : SubdirectoryReport} {json : Json}
    (done : report.toJson? = some json) : json.KeysDiffer := by
  simp only [toJson?, Option.bind_eq_bind, Option.bind_eq_some_iff, Option.pure_def,
    Option.some.injEq] at done
  obtain ⟨text, isText, rfl⟩ := done
  refine .object (show ["path", "files", "files_processed", "files_changed", "links_changed"].Nodup
    by decide) ?_
  simp only [List.cons_append, List.nil_append, List.forall_mem_cons]
  refine ⟨.string _, .array ?_, report.totals.keysDiffer_of_mem_members⟩
  rw [List.forall_mem_map]
  exact fun file _ => file.keysDiffer_toJson

theorem RunReport.ofJson?_of_toJson? {report : RunReport} {json : Json}
    (done : report.toJson? = some json) : ofJson? json = some report := by
  obtain ⟨⟨root⟩, dryRun, ⟨subdirectories⟩, totals⟩ := report
  simp only [toJson?, Option.bind_eq_bind, Option.bind_eq_some_iff, Option.pure_def,
    Option.some.injEq] at done
  obtain ⟨text, isText, written, allWritten, rfl⟩ := done
  have readAll := mapM_eq_some_of_mapM
    (fun _ _ => SubdirectoryReport.ofJson?_of_toJson?) allWritten
  simp [ofJson?, Json.member?, List.lookup_cons, Json.string?, Json.bool?, Json.items?,
    Totals.ofJson?, Totals.members, Json.number?, readAll, Path.ofString,
    Bytes.text?_eq_some_iff.1 isText]

theorem RunReport.keysDiffer_of_toJson? {report : RunReport} {json : Json}
    (done : report.toJson? = some json) : json.KeysDiffer := by
  simp only [toJson?, Option.bind_eq_bind, Option.bind_eq_some_iff, Option.pure_def,
    Option.some.injEq] at done
  obtain ⟨text, isText, written, allWritten, rfl⟩ := done
  refine .object (show ["root", "dry_run", "subdirectories", "totals"].Nodup by decide) ?_
  simp only [List.forall_mem_cons]
  refine ⟨.string _, .bool _, .array fun form member => ?_,
    .object (show ["files_processed", "files_changed", "links_changed"].Nodup by decide)
      report.totals.keysDiffer_of_mem_members, by simp⟩
  obtain ⟨subdirectory, -, done⟩ := exists_of_mem_of_mapM allWritten member
  exact SubdirectoryReport.keysDiffer_of_toJson? done

theorem SubdirectoryReport.isSome_toJson?_iff {report : SubdirectoryReport} :
    report.toJson?.isSome ↔ report.path.bytes.text?.isSome := by
  rw [toJson?]
  cases report.path.bytes.text? <;> simp

theorem RunReport.isSome_toJson?_iff {report : RunReport} :
    report.toJson?.isSome ↔ report.Textual := by
  simp only [Textual, ← SubdirectoryReport.isSome_toJson?_iff, ← isSome_mapM_iff]
  rw [toJson?]
  cases report.root.bytes.text? <;>
    cases report.subdirectories.toList.mapM SubdirectoryReport.toJson? <;> simp

theorem RunReport.ofText?_toText {report : RunReport} {json : Json}
    (done : report.toJson? = some json) (space : String)
    (blank : ∀ c ∈ space.toList, Json.isBlank c) :
    ofText? (json.toText ++ space) = some report := by
  rw [ofText?, Json.read?_toText json space blank]
  exact ofJson?_of_toJson? done

/-- A report whose paths are text is printed as one value by the grammar of JSON, its keys distinct
in each object, and the text tells all of the report: it is read back from it, and no other report
is printed as the same text. -/
theorem RunReport.printed_losslessly {report : RunReport} (textual : report.Textual) :
    ∃ json, report.toJson? = some json ∧
      Json.Grammar.Element json.toText.toList ∧ Json.read? json.toText = some json ∧
      json.KeysDiffer ∧
      (∀ space : String, (∀ c ∈ space.toList, Json.isBlank c) →
        ofText? (json.toText ++ space) = some report) ∧
      ∀ other otherJson, other.toJson? = some otherJson → otherJson.toText = json.toText →
        other = report := by
  obtain ⟨json, done⟩ := Option.isSome_iff_exists.1 (isSome_toJson?_iff.2 textual)
  have element := Json.Grammar.Element.mk Json.Grammar.nil_mem_blank
    (Json.Grammar.value_print json 0) Json.Grammar.nil_mem_blank
  have read := Json.read?_toText json "" (by simp)
  refine ⟨json, done, ?_, ?_, keysDiffer_of_toJson? done, ofText?_toText done, ?_⟩
  · simpa [Json.toText] using element
  · simpa using read
  · intro other otherJson otherDone same
    have back := ofText?_toText done "" (by simp)
    have otherBack := ofText?_toText otherDone "" (by simp)
    rw [same, back] at otherBack
    exact (Option.some.inj otherBack).symm

def trickyReport : RunReport where
  root := .ofString "docs\\\"é"
  dryRun := true
  subdirectories := #[
    ⟨.ofString "docs\\\"é/a\n\t\x00\x1f\x7f",
      #[⟨"Q1\", \"changes\": 9.md", 2⟩, ⟨"\n      ]\\.md", 0⟩], ⟨2, 1, 2⟩⟩,
    ⟨.ofString "😀", #[], ⟨0, 0, 0⟩⟩]
  totals := ⟨2, 1, 2 ^ 64 - 1⟩

theorem printed_losslessly_tricky :
    trickyReport.Textual ∧ ∃ json, trickyReport.toJson? = some json ∧
      Json.Grammar.Element json.toText.toList ∧ json.KeysDiffer ∧
      RunReport.ofText? (json.toText ++ "\n") = some trickyReport := by
  have textual : trickyReport.Textual := by decide +kernel
  obtain ⟨json, done, element, -, differ, back, -⟩ := RunReport.printed_losslessly textual
  exact ⟨textual, json, done, element, differ, back "\n" (by simp [Json.isBlank])⟩

end BrokenLinks
