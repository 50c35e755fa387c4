import BrokenLinks.Proofs.Repair.Respelling

/-! What the links of a repaired text lead to.

A repair leaves a text of stable spans unless some link hides another: a label with a `.md)` in
it before a stem with a bracket. Spelling out the placeholders keeps spans stable, so a second
repair meets no link that the first has not already kept or led out of the tree. -/

set_option autoImplicit false

namespace BrokenLinks

variable {present : List Char → Prop} {isLocal : List Char → Bool} {text : List Char}

/-- If a search resumes inside the label of the link, it takes for the next link what begins in
the stem. -/
def Link.Hides (link : Link) : Prop :=
  Link.closing <:+: link.label ∧ '[' ∈ link.stem

instance (link : Link) : Decidable link.Hides :=
  inferInstanceAs (Decidable (_ ∧ _))

namespace Link

variable {link : Link}

theorem not_closing_infix_fileName (canonical : link.Canonical) :
    ¬ closing <:+: link.fileName :=
  not_closing_infix_append (by decide) canonical.stem

theorem not_closing_infix_url (canonical : link.Canonical) :
    ¬ closing <:+: link.page.url := by
  have bases : ∀ base ∈ WikidataPage.bases, ¬ closing <:+: base := by decide
  obtain ⟨base, known, url⟩ := link.page_url
  rw [url, (WikidataPage.parted_of_mem known link.stem).infix_append_iff, not_or]
  exact ⟨bases base known, canonical.stem⟩

theorem scheme_infix_url (link : Link) : scheme <:+: link.page.url := by
  obtain ⟨base, known, url⟩ := link.page_url
  rw [url]
  exact (WikidataPage.scheme_infix_of_mem known).trans (List.prefix_append base _).isInfix

theorem opening_not_mem_target (bare : '[' ∉ link.stem) : '[' ∉ link.target isLocal := by
  have bases : ∀ base ∈ WikidataPage.bases, '[' ∉ base := by decide
  obtain ⟨base, known, url⟩ := link.page_url
  unfold target
  split
  · simp [fileName, bare]
  · simp [fileName, bare]
  · simp [url, bases base known, bare]

theorem stable_settled (canonical : link.Canonical) (plain : ¬ link.Hides) {gap : List Char}
    (bare : '[' ∉ gap)
    (kept : link.isExternal = false → isLocal link.fileName = true → present link.fileName) :
    Span.Stable present ⟨gap, link.label, link.target isLocal⟩ where
  gap := bare
  label := canonical.label
  target := by
    simp only [target]
    split
    · exact not_closing_infix_fileName canonical
    · exact not_closing_infix_fileName canonical
    · exact not_closing_infix_url canonical
  hidden inLabel := opening_not_mem_target fun inStem => plain ⟨inLabel, inStem⟩
  leads := by
    simp only [target, verdict]
    cases external : link.isExternal with
    | true => exact .inl (isExternal_iff.1 external)
    | false =>
      cases found : isLocal link.fileName with
      | true => exact .inr ⟨List.suffix_append _ pageEnding, kept external found⟩
      | false => exact .inl link.scheme_infix_url

end Link

namespace Span

variable {span : Span} {gap label target : List Char}

/-- Spelling out placeholders keeps a span stable: no delimiter is made, and a target that
changes leads to Wikidata. -/
theorem Stable.respelled (stable : span.Stable present) (inGap : Respelled span.gap gap)
    (inLabel : Altered span.label label) (inTarget : Respelled span.target target) :
    Stable present ⟨gap, label, target⟩ where
  gap := mt inGap.altered.opening_mem_of_mem stable.gap
  label := mt (inLabel.infix_of_infix legible_middle) stable.label
  target := mt (inTarget.altered.infix_of_infix legible_closing) stable.target
  hidden occurs := mt inTarget.altered.opening_mem_of_mem
    (stable.hidden (inLabel.infix_of_infix legible_closing occurs))
  leads := by
    rcases inTarget.eq_or_scheme with same | scheme
    · exact same ▸ stable.leads
    · exact .inl scheme

theorem split_respelled {rest after : List Char} (bare : '[' ∉ span.gap)
    (first : ¬ Link.middle <:+: span.label)
    (respelled : Respelled (span.toText ++ rest) after) :
    ∃ gap label target rest', after = Span.toText ⟨gap, label, target⟩ ++ rest' ∧
      Respelled span.gap gap ∧ Altered span.label label ∧ Respelled span.target target ∧
      Respelled rest rest' := by
  have cut : span.toText ++ rest = span.gap ++ '[' ::
      (span.label ++ Link.middle ++ (span.target ++ ')' :: rest)) := by
    simp [toText, Link.opening]
  rw [cut] at respelled
  obtain ⟨gap, afterGap, rfl, inGap, others⟩ := respelled.split (.inl ⟨rfl, bare⟩)
  -- A placeholder link may begin at the bracket, so the bracket goes with the label.
  have first' : ¬ Link.middle <:+: '[' :: span.label :=
    Link.not_middle_infix_opening_append first
  obtain ⟨bracketed, afterLabel, rfl, inLabel, others⟩ := others.split_middle first'
  obtain ⟨target, afterTarget, rfl, inTarget, others⟩ := others.split (.inr rfl)
  obtain ⟨rest', rfl, inRest⟩ := others.of_cons (by decide) (by decide)
  obtain ⟨label, rfl, altered⟩ : ∃ label, bracketed = '[' :: label ∧ Altered span.label label := by
    cases inLabel with
    | keep _ altered => exact ⟨_, rfl, altered⟩
  exact ⟨gap, label, target, rest', by simp [toText, Link.opening], inGap, altered, inTarget,
    inRest⟩

end Span

theorem resumable_of_respelled {spans : List Span} {remainder after : List Char}
    (stable : ∀ span ∈ spans, span.Stable present)
    (unread : ∀ link : Link, ¬ link.toText <:+: remainder)
    (respelled : Respelled (spans.flatMap Span.toText ++ remainder) after) :
    Resumable present after := by
  induction spans generalizing after with
  | nil =>
    refine resumable_of_unread fun link occurs => ?_
    obtain ⟨other, stood⟩ := respelled.altered.exists_link_of_link occurs
    exact unread other stood
  | cons span spans ih =>
    rw [List.forall_mem_cons] at stable
    rw [List.flatMap_cons, List.append_assoc] at respelled
    obtain ⟨gap, label, target, rest, rfl, inGap, inLabel, inTarget, others⟩ :=
      Span.split_respelled stable.1.gap stable.1.label respelled
    exact (ih stable.2 others).append_span (stable.1.respelled inGap inLabel inTarget)

namespace Repair

theorem led_text_ofText (plain : ∀ link ∈ (Document.ofText text).links, ¬ link.Hides) :
    (Document.ofText (ofText isLocal text).text).Led fun name => isLocal name = true ∧
      ∃ link ∈ (Document.ofText text).links, link.isExternal = false ∧ link.fileName = name := by
  have canonical := Document.canonical_ofText text
  have respelled := respelled_placeholders
    (((Document.ofText text).spans isLocal).flatMap Span.toText ++ (Document.ofText text).remainder)
  rw [← text_ofText] at respelled
  refine (resumable_of_respelled ?_ canonical.remainder respelled).here [] (by simp)
  intro span member
  obtain ⟨⟨gap, link⟩, inText, rfl⟩ := List.mem_map.1 member
  have isLink : link ∈ (Document.ofText text).links := List.mem_map.2 ⟨_, inText, rfl⟩
  exact Link.stable_settled (canonical.links _ inText) (plain link isLink)
    (canonical.gaps _ inText) fun inside found => ⟨found, link, isLink, inside, rfl⟩

/-- Once no link hides another, a second pass has nothing to do, though pages may have been added
in between. -/
theorem second_pass_unchanged {before after : List Char → Bool}
    (plain : ∀ link ∈ (Document.ofText text).links, ¬ link.Hides)
    (added : ∀ name, before name = true → after name = true) :
    (ofText after (ofText before text).text).changes = 0 ∧
      (ofText after (ofText before text).text).text = (ofText before text).text := by
  have led : (Document.ofText (ofText before text).text).Led (after · = true) :=
    fun link member => (led_text_ofText plain link member).imp_right fun kept => added _ kept.1
  have unchanged := changes_text_eq_zero_iff.2 led
  exact ⟨unchanged, text_eq_of_changes_eq_zero unchanged⟩

theorem second_pass_unchanged_past_other_links :
    let text := "[a [b](Q2.md) [c](Q3.md) ![d](d.png) [e](http://e.md) [!](!.md) (!.md)".toList
    let before := fun name => decide (name = "Q2.md".toList)
    let after := fun name => decide (name = "Q2.md".toList ∨ name = "Q3.md".toList)
    (ofText before text).changes = 4 ∧
      (ofText after (ofText before text).text).changes = 0 ∧
      (ofText after (ofText before text).text).text = (ofText before text).text := by
  refine ⟨by decide +kernel, second_pass_unchanged (by decide +kernel) ?_⟩
  simp +contextual

end Repair

end BrokenLinks
