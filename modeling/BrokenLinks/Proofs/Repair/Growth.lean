import BrokenLinks.Proofs.Repair.Settlement
import BrokenLinks.Proofs.Text.Measure
import Mathlib

/-! How much longer a repair makes a text.

Whatever takes the place of a link or of a placeholder is longer by a number of bytes that is
known, so changes never make up for each other. -/

set_option autoImplicit false

namespace BrokenLinks

open Text (utf8Length occurrences)

variable {isLocal : List Char → Bool} {text : List Char}

def Link.growth (link : Link) : Nat :=
  match link.page.kind with
  | .item => 27
  | .property => 36

theorem Link.growth_ne_zero (link : Link) : link.growth ≠ 0 := by
  unfold growth
  split <;> decide

theorem Link.utf8Length_url (link : Link) :
    utf8Length link.page.url = utf8Length link.fileName + link.growth := by
  have base : utf8Length WikidataPage.baseUrl = 30 := by decide
  have property : utf8Length WikidataPage.propertyNamespace = 9 := by decide
  have ending : utf8Length ['.', 'm', 'd'] = 3 := by decide
  have same : link.page.id = link.stem := rfl
  unfold WikidataPage.url growth fileName
  cases link.page.kind <;> simp only [Text.utf8Length_append, same] <;> omega

theorem Link.utf8Length_settled (link : Link) (verdict : Verdict) :
    utf8Length (link.settled verdict) =
      utf8Length link.toText + if verdict = .missing then link.growth else 0 := by
  have closing : utf8Length link.toText =
      utf8Length opening + utf8Length link.label + utf8Length middle + utf8Length link.fileName +
        utf8Length [')'] := by
    simp only [toText_eq, Text.utf8Length_append]
  cases verdict with
  | external => rfl
  | present => rfl
  | missing =>
    simp only [settled, if_true, closing, Text.utf8Length_append, link.utf8Length_url]
    omega

def Document.growth (isLocal : List Char → Bool) (document : Document) : Nat :=
  ((document.links.filter (·.verdict isLocal = .missing)).map Link.growth).sum

def Document.missing (isLocal : List Char → Bool) (document : Document) : List Link :=
  document.links.filter (·.verdict isLocal = .missing)

def Link.NamesProperty (link : Link) : Prop :=
  link.stem.head? = some 'P'

instance : DecidablePred Link.NamesProperty :=
  fun link => inferInstanceAs (Decidable (link.stem.head? = some 'P'))

theorem Link.growth_eq_ite (link : Link) : link.growth = if link.NamesProperty then 36 else 27 := by
  unfold growth NamesProperty page WikidataPage.ofStem
  by_cases property : link.stem.head? = some 'P' <;> simp [property]

theorem Document.growth_eq (isLocal : List Char → Bool) (document : Document) :
    document.growth isLocal =
      27 * (document.missing isLocal).countP (¬ ·.NamesProperty) +
        36 * (document.missing isLocal).countP (·.NamesProperty) := by
  unfold growth missing
  induction document.links.filter (·.verdict isLocal = .missing) with
  | nil => rfl
  | cons link links ih =>
    rw [List.map_cons, List.sum_cons, ih, link.growth_eq_ite, List.countP_cons, List.countP_cons]
    by_cases property : link.NamesProperty <;> simp only [property] <;> simp <;> omega

theorem Document.length_missing (isLocal : List Char → Bool) (document : Document) :
    (document.missing isLocal).length =
      (document.links.map (·.verdict isLocal)).count .missing := by
  rw [missing, ← List.countP_eq_length_filter, List.count, List.countP_map]
  exact List.countP_congr fun link _ => by simp

theorem Document.utf8Length_settle (isLocal : List Char → Bool) (document : Document) :
    utf8Length (document.settle (document.links.map (·.verdict isLocal))) =
      utf8Length document.toText + document.growth isLocal := by
  obtain ⟨linked, remainder⟩ := document
  simp only [settle, toText, growth, links, Text.utf8Length_append]
  induction linked with
  | nil => simp
  | cons part linked ih =>
    simp only [List.map_cons, List.zip_cons_cons, List.flatMap_cons, Text.utf8Length_append,
      Link.utf8Length_settled, List.filter_cons, decide_eq_true_eq]
    split
    · simp only [List.map_cons, List.sum_cons]
      omega
    · omega

theorem Document.growth_eq_zero_iff {document : Document} :
    document.growth isLocal = 0 ↔
      (document.links.map (·.verdict isLocal)).count .missing = 0 := by
  rw [growth, List.sum_eq_zero_iff_forall_eq_nat, List.forall_mem_map, List.count_eq_zero]
  simp [Link.growth_ne_zero]

namespace Substitution

variable {substitution : Substitution}

theorem utf8Length_apply {growth : Nat} (empty : substitution.pattern ≠ [])
    (longer : utf8Length substitution.substitute = utf8Length substitution.pattern + growth)
    (text : List Char) :
    utf8Length (substitution.apply text) =
      utf8Length text + growth * occurrences substitution.pattern text := by
  have measured := @Text.utf8Length_replaceAll _ substitution.substitute empty text
  rw [longer, Nat.mul_add, Nat.mul_comm _ growth] at measured
  unfold apply
  omega

theorem occurrences_eq_zero_iff_changes (empty : substitution.pattern ≠ []) :
    occurrences substitution.pattern text = 0 ↔ substitution.changes text = 0 := by
  rw [Text.occurrences_eq_zero_iff empty, changes_eq_zero_iff]

theorem changes_eq_min (empty : substitution.pattern ≠ []) :
    substitution.changes text = min 1 (occurrences substitution.pattern text) := by
  have none : occurrences substitution.pattern text = 0 ↔ _ :=
    occurrences_eq_zero_iff_changes empty
  have once : substitution.changes text ≤ 1 := by
    unfold changes
    split <;> decide
  omega

end Substitution

namespace Repair

/-- The text after the links are settled, and before the placeholders are spelled out. -/
def settledText (isLocal : List Char → Bool) (text : List Char) : List Char :=
  (Document.ofText text).settle ((Document.ofText text).links.map (·.verdict isLocal))

def replacedLinks (isLocal : List Char → Bool) (text : List Char) : Nat :=
  occurrences Substitution.placeholderLink.pattern (settledText isLocal text)

def replacedTargets (isLocal : List Char → Bool) (text : List Char) : Nat :=
  occurrences Substitution.placeholderTarget.pattern
    (Substitution.placeholderLink.apply (settledText isLocal text))

theorem text_eq_apply (isLocal : List Char → Bool) (text : List Char) :
    (ofText isLocal text).text = Substitution.placeholderTarget.apply
      (Substitution.placeholderLink.apply (settledText isLocal text)) := by
  rw [ofText_eq]
  rfl

theorem utf8Length_text (isLocal : List Char → Bool) (text : List Char) :
    utf8Length (ofText isLocal text).text =
      utf8Length text + (Document.ofText text).growth isLocal +
        12 * replacedLinks isLocal text + 33 * replacedTargets isLocal text := by
  have first : utf8Length (settledText isLocal text) = _ :=
    (Document.ofText text).utf8Length_settle isLocal
  have second := @Substitution.utf8Length_apply Substitution.placeholderLink 12
    Substitution.placeholderLink_ne_nil (by decide) (settledText isLocal text)
  have third := @Substitution.utf8Length_apply Substitution.placeholderTarget 33
    Substitution.placeholderTarget_ne_nil (by decide)
    (Substitution.placeholderLink.apply (settledText isLocal text))
  rw [text_eq_apply, third, second, first, Document.toText_ofText, replacedLinks, replacedTargets]

theorem changes_eq (isLocal : List Char → Bool) (text : List Char) :
    (ofText isLocal text).changes = ((Document.ofText text).missing isLocal).length +
      min 1 (replacedLinks isLocal text) + min 1 (replacedTargets isLocal text) := by
  rw [ofText_eq, Document.length_missing]
  unfold replacedLinks replacedTargets
  rw [← Substitution.changes_eq_min Substitution.placeholderLink_ne_nil,
    ← Substitution.changes_eq_min Substitution.placeholderTarget_ne_nil]
  rfl

theorem utf8Length_lt_of_changes_ne_zero (changed : (ofText isLocal text).changes ≠ 0) :
    utf8Length text < utf8Length (ofText isLocal text).text := by
  have grown : (Document.ofText text).growth isLocal = 0 ↔ _ := Document.growth_eq_zero_iff
  rw [← Document.length_missing] at grown
  rw [changes_eq] at changed
  rw [utf8Length_text]
  omega

/-- The counter tells whether the text has changed. Each kind of change makes the text longer by a
number of bytes of its own, and all of them are counted. -/
theorem isChanged_iff_text_ne (isLocal : List Char → Bool) (text : List Char) :
    let repair := ofText isLocal text
    let missing := (Document.ofText text).missing isLocal
    (repair.isChanged = true ↔ repair.text ≠ text) ∧
      utf8Length repair.text = utf8Length text +
        27 * missing.countP (¬ ·.NamesProperty) + 36 * missing.countP (·.NamesProperty) +
        12 * replacedLinks isLocal text + 33 * replacedTargets isLocal text ∧
      repair.changes = missing.length + min 1 (replacedLinks isLocal text) +
        min 1 (replacedTargets isLocal text) := by
  refine ⟨?_, ?_, changes_eq isLocal text⟩
  · have counted : (ofText isLocal text).isChanged = true ↔ (ofText isLocal text).changes ≠ 0 := by
      simp [isChanged, Nat.pos_iff_ne_zero]
    rw [counted]
    constructor
    · intro changed same
      have longer := utf8Length_lt_of_changes_ne_zero changed
      rw [same] at longer
      exact Nat.lt_irrefl _ longer
    · exact mt text_eq_of_changes_eq_zero
  · rw [utf8Length_text, Document.growth_eq]
    omega

end Repair

end BrokenLinks
