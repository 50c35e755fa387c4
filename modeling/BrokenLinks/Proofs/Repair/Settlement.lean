import BrokenLinks.Proofs.Document.Resumption
import BrokenLinks.Proofs.Repair.Placeholder

/-! Which links a repair settles anew, and when it changes nothing.

Under a predicate that answers without effects every link has a verdict of its own, and a repaired
text is a text of spans with the placeholders spelled out. A repair that counts no change is one
where every link leads to its place and no placeholder stands in the text. -/

set_option autoImplicit false

namespace BrokenLinks

namespace WikidataPage

def bases : List (List Char) := [baseUrl, baseUrl ++ propertyNamespace]

variable {base : List Char}

theorem scheme_infix_of_mem (known : base ∈ bases) : Link.scheme <:+: base := by
  revert base
  decide

theorem parted_of_mem (known : base ∈ bases) (stem : List Char) :
    Text.Parted Link.closing base stem := by
  -- No base ends like the start of what ends a link.
  obtain ⟨last, closes, ends⟩ :
      ∃ last, base.getLast? = some last ∧ last ∉ Link.closing.dropLast := by
    revert base
    simp only [bases, List.forall_mem_cons]
    exact ⟨⟨'/', by decide⟩, ⟨':', by decide⟩, by simp⟩
  exact Text.parted_of_getLast? closes ends

end WikidataPage

variable {isLocal : List Char → Bool} {text : List Char}

namespace Link

variable {link : Link}

theorem page_url (link : Link) :
    ∃ base ∈ WikidataPage.bases, link.page.url = base ++ link.stem := by
  unfold WikidataPage.url
  cases link.page.kind with
  | item => exact ⟨_, .head _, rfl⟩
  | property => exact ⟨_, .tail _ (.head _), rfl⟩

def verdict (isLocal : List Char → Bool) (link : Link) : Verdict :=
  if link.isExternal then .external
  else if isLocal link.fileName then .present else .missing

theorem judge_pure {m : Type → Type} [Monad m] [LawfulMonad m] (isLocal : List Char → Bool)
    (link : Link) :
    link.judge (m := m) (fun fileName => pure (isLocal fileName)) =
      pure (link.verdict isLocal) := by
  by_cases external : link.isExternal <;> simp [judge, verdict, external]

theorem verdict_ne_missing_iff :
    link.verdict isLocal ≠ .missing ↔ link.Led (isLocal · = true) := by
  by_cases external : link.isExternal
  · simp [verdict, Led, external]
  · by_cases found : isLocal link.fileName <;> simp [verdict, Led, external, found]

def target (isLocal : List Char → Bool) (link : Link) : List Char :=
  match link.verdict isLocal with
  | .external | .present => link.fileName
  | .missing => link.page.url

theorem settled_verdict (gap : List Char) :
    gap ++ link.settled (link.verdict isLocal) =
      Span.toText ⟨gap, link.label, link.target isLocal⟩ := by
  unfold target
  cases link.verdict isLocal <;>
    simp [settled, Span.toText, Link.toText_eq]

theorem settled_of_ne_missing (link : Link) {verdict : Verdict} (kept : verdict ≠ .missing) :
    link.settled verdict = link.toText := by
  cases verdict with
  | external | present => rfl
  | missing => contradiction

theorem settled_of_led (led : link.Led (isLocal · = true)) :
    link.settled (link.verdict isLocal) = link.toText :=
  link.settled_of_ne_missing (verdict_ne_missing_iff.2 led)

end Link

namespace Document

variable {document : Document}

def spans (isLocal : List Char → Bool) (document : Document) : List Span :=
  document.linked.map fun (gap, link) => ⟨gap, link.label, link.target isLocal⟩

theorem settle_map_verdict (isLocal : List Char → Bool) (document : Document) :
    document.settle (document.links.map (·.verdict isLocal)) =
      (document.spans isLocal).flatMap Span.toText ++ document.remainder := by
  obtain ⟨linked, remainder⟩ := document
  simp only [settle, spans, links, List.append_left_inj]
  induction linked with
  | nil => rfl
  | cons part linked ih =>
    simp only [List.map_cons, List.zip_cons_cons, List.flatMap_cons, ih, Link.settled_verdict]

theorem settle_of_led (led : document.Led (isLocal · = true)) :
    document.settle (document.links.map (·.verdict isLocal)) = document.toText := by
  obtain ⟨linked, remainder⟩ := document
  simp only [settle, toText, links, List.append_left_inj]
  simp only [Led, links] at led
  induction linked with
  | nil => rfl
  | cons part linked ih =>
    simp only [List.map_cons, List.forall_mem_cons] at led
    simp only [List.map_cons, List.zip_cons_cons, List.flatMap_cons, ih led.2,
      Link.settled_of_led led.1]

theorem count_missing_eq_zero_iff :
    (document.links.map (·.verdict isLocal)).count .missing = 0 ↔
      document.Led (isLocal · = true) := by
  rw [List.count_eq_zero, List.mem_map]
  constructor
  · intro absent link member
    exact Link.verdict_ne_missing_iff.1 fun missing => absent ⟨link, member, missing⟩
  · rintro led ⟨link, member, missing⟩
    exact Link.verdict_ne_missing_iff.2 (led link member) missing

end Document

theorem Substitution.changes_eq_zero_iff {substitution : Substitution} :
    substitution.changes text = 0 ↔ ¬ substitution.pattern <:+: text := by
  rw [changes, ← Text.contains_iff]
  split <;> simp [*]

namespace Repair

theorem ofText_eq (isLocal : List Char → Bool) (text : List Char) :
    ofText isLocal text = (Document.ofText text).repair
      ((Document.ofText text).links.map (·.verdict isLocal)) := by
  have answers := List.mapM_pure (m := Id) (l := (Document.ofText text).links)
    (f := Link.verdict isLocal)
  simp only [ofText, ofTextM, Link.judge_pure, answers, pure_bind]
  rfl

theorem text_ofText (isLocal : List Char → Bool) (text : List Char) :
    (ofText isLocal text).text = Substitution.placeholders
      (((Document.ofText text).spans isLocal).flatMap Span.toText ++
        (Document.ofText text).remainder) := by
  rw [ofText_eq, ← Document.settle_map_verdict]
  rfl

theorem text_ofText_nil (isLocal : List Char → Bool) : (ofText isLocal []).text = [] := by
  rw [text_ofText, Document.ofText_of_next?_eq_none rfl]
  rfl

theorem changes_eq_zero_iff :
    (ofText isLocal text).changes = 0 ↔ (Document.ofText text).Led (isLocal · = true) ∧
      ¬ Substitution.placeholderLink.pattern <:+: text ∧
      ¬ Substitution.placeholderTarget.pattern <:+: text := by
  -- With nothing to settle, the substitutions see the text itself.
  simp only [ofText_eq, Document.repair, Nat.add_eq_zero_iff, Document.count_missing_eq_zero_iff,
    Substitution.changes_eq_zero_iff, and_assoc]
  refine and_congr_right fun led => ?_
  rw [Document.settle_of_led led, Document.toText_ofText]
  -- The second substitution is made on what the first has left, which is the text again.
  refine and_congr_right fun noLink => ?_
  rw [Substitution.apply, Text.replaceAll_eq_self noLink]

theorem text_eq_of_changes_eq_zero (unchanged : (ofText isLocal text).changes = 0) :
    (ofText isLocal text).text = text := by
  obtain ⟨led, noLink, noTarget⟩ := changes_eq_zero_iff.1 unchanged
  rw [text_ofText, ← Document.settle_map_verdict, Document.settle_of_led led,
    Document.toText_ofText, Substitution.placeholders_eq_self noLink noTarget]

theorem changes_text_eq_zero_iff {isLocal' : List Char → Bool} :
    (ofText isLocal' (ofText isLocal text).text).changes = 0 ↔
      (Document.ofText (ofText isLocal text).text).Led (isLocal' · = true) := by
  -- A text that has been repaired holds no placeholder, so its links decide.
  rw [changes_eq_zero_iff]
  refine and_iff_left ?_
  rw [text_ofText]
  exact Substitution.not_infix_placeholders _

end Repair

end BrokenLinks
