import BrokenLinks.Proofs.Repair.Growth

/-! What a repair leaves of the placeholders: neither spelling is found in its text.

This is so whatever has become of the links, and where nothing was spelled, nothing else is
replaced. -/

set_option autoImplicit false

namespace BrokenLinks

open Substitution

variable {text : List Char}

def PlaceholderFree (text : List Char) : Prop :=
  ∀ spelling ∈ ["[!](https://www.wikidata.org/wiki/!)".toList, "(!.md)".toList],
    ¬ spelling <:+: text

theorem placeholderFree_iff : PlaceholderFree text ↔
    ¬ placeholderLink.pattern <:+: text ∧ ¬ placeholderTarget.pattern <:+: text := by
  have link : placeholderLink.pattern = "[!](https://www.wikidata.org/wiki/!)".toList := by decide
  have target : placeholderTarget.pattern = "(!.md)".toList := rfl
  simp only [PlaceholderFree, List.forall_mem_cons, List.not_mem_nil, false_implies, implies_true,
    and_true, link, target]

namespace Document

theorem placeholderFree_text_repair (document : Document) (verdicts : List Verdict) :
    PlaceholderFree (document.repair verdicts).text :=
  placeholderFree_iff.2 (not_infix_placeholders (document.settle verdicts))

theorem text_repair_eq_settle_iff (document : Document) (verdicts : List Verdict) :
    (document.repair verdicts).text = document.settle verdicts ↔
      PlaceholderFree (document.settle verdicts) :=
  placeholders_eq_self_iff.trans placeholderFree_iff.symm

end Document

namespace Repair

/-- No placeholder is left, under any predicate. A text in which none stood once its links were
settled is left at that. -/
theorem no_placeholder_left (isLocal : List Char → Bool) (text : List Char) :
    PlaceholderFree (ofText isLocal text).text ∧
      ((ofText isLocal text).text = settledText isLocal text ↔
        PlaceholderFree (settledText isLocal text)) := by
  rw [ofText_eq]
  exact ⟨Document.placeholderFree_text_repair _ _, Document.text_repair_eq_settle_iff _ _⟩

/-- The link to a page that is there is kept up to its target. -/
example : (ofText (· = "!.md".toList) "[!](!.md)".toList).text =
    "[!](https://www.wikidata.org/wiki/Q363948)".toList := by decide +kernel

end Repair

end BrokenLinks
