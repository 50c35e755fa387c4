import BrokenLinks.Proofs.Repair.Settlement

/-! What a repair makes of each part of a text: of its links, of the gaps between them and of the
text after the last.

No placeholder lies across the start or the end of a link, so each part is repaired on its own. A
link that leads out of the tree or to a page that is there stays as it is unless a placeholder is
spelled inside it. -/

set_option autoImplicit false

namespace BrokenLinks

variable {isLocal : List Char → Bool} {link : Link}

namespace Link

def replacement (isLocal : List Char → Bool) (link : Link) : List Char :=
  Substitution.placeholders (link.settled (link.verdict isLocal))

/-- Neither spelling of the placeholder stands inside the link. -/
def Unmarked (link : Link) : Prop :=
  ¬ Substitution.placeholderLink.pattern <:+: link.toText ∧
    ¬ Substitution.placeholderTarget.pattern <:+: link.toText

instance (link : Link) : Decidable link.Unmarked :=
  inferInstanceAs (Decidable (_ ∧ _))

theorem replacement_eq_toText_iff (led : link.Led (isLocal · = true)) :
    link.replacement isLocal = link.toText ↔ link.Unmarked := by
  rw [replacement, settled_of_led led, Substitution.placeholders_eq_self_iff, Unmarked]

theorem head?_settled (link : Link) (verdict : Verdict) (rest : List Char) :
    (link.settled verdict ++ rest).head? = some '[' := by
  cases verdict <;> rfl

theorem getLast?_settled (link : Link) (verdict : Verdict) :
    (link.settled verdict).getLast? = some ')' := by
  cases verdict <;> simp [settled, toText, closing]

end Link

namespace Substitution

theorem placeholders_append_settled (gap : List Char) (link : Link) (verdict : Verdict)
    (rest : List Char) :
    placeholders (gap ++ (link.settled verdict ++ rest)) =
      placeholders gap ++ placeholders (link.settled verdict ++ rest) :=
  placeholders_append
    (Text.parted_of_head? (link.head?_settled verdict rest) (by decide))
    (Text.parted_of_head? (link.head?_settled verdict rest) (by decide))

theorem placeholders_settled_append (link : Link) (verdict : Verdict) (rest : List Char) :
    placeholders (link.settled verdict ++ rest) =
      placeholders (link.settled verdict) ++ placeholders rest :=
  placeholders_append
    (Text.parted_of_getLast? (link.getLast?_settled verdict) (by decide))
    (Text.parted_of_getLast? (link.getLast?_settled verdict) (by decide))

end Substitution

namespace Document

def repaired (isLocal : List Char → Bool) (document : Document) : List Char :=
  (document.linked.flatMap fun (gap, link) =>
    Substitution.placeholders gap ++ link.replacement isLocal) ++
      Substitution.placeholders document.remainder

theorem placeholders_settle (isLocal : List Char → Bool) (document : Document) :
    Substitution.placeholders (document.settle (document.links.map (·.verdict isLocal))) =
      document.repaired isLocal := by
  obtain ⟨linked, remainder⟩ := document
  simp only [settle, links, repaired]
  induction linked with
  | nil => rfl
  | cons part linked ih =>
    obtain ⟨gap, link⟩ := part
    simp only [List.map_cons, List.zip_cons_cons, List.flatMap_cons, List.append_assoc,
      Substitution.placeholders_append_settled, Substitution.placeholders_settled_append, ih,
      Link.replacement]

end Document

theorem Repair.text_ofText_eq_repaired (isLocal : List Char → Bool) (text : List Char) :
    (ofText isLocal text).text = (Document.ofText text).repaired isLocal := by
  rw [ofText_eq, ← Document.placeholders_settle]
  rfl

end BrokenLinks
