import BrokenLinks.Proofs.Document.Canonical

/-! Where the search for links can resume in a text of spans.

A span is a gap and what was a link, whose target need not be a page any more. The search that
starts at such a span runs on to the next `.md)`, and the links after it are met from there. In a
text of stable spans it falls back into step at the end of a later span, or at the start of one,
so every link that it meets is external or keeps a target of its own. -/

set_option autoImplicit false

namespace BrokenLinks

def Link.scheme : List Char := [':', '/', '/']

def Link.pageEnding : List Char := ['.', 'm', 'd']

theorem Link.isExternal_iff {link : Link} :
    link.isExternal = true ↔ Link.scheme <:+: link.fileName := Text.contains_iff

theorem Link.cut?_closing_eq_none {target : List Char} (first : ¬ closing <:+: target)
    (other : ¬ pageEnding <:+ target) : Text.cut? closing (target ++ [')']) = none := by
  rw [Text.cut?_eq_none_iff, List.infix_concat_iff, not_or]
  refine ⟨?_, first⟩
  rintro ⟨kept, same⟩
  have ends : kept ++ pageEnding ++ [')'] = target ++ [')'] := by
    simpa [closing, pageEnding] using same
  exact other ⟨kept, (List.append_inj' ends rfl).1⟩

/-- A link that leads out of the tree, or to a page of the kind. -/
def Link.Led (present : List Char → Prop) (link : Link) : Prop :=
  link.isExternal = true ∨ present link.fileName

def Document.Led (present : List Char → Prop) (document : Document) : Prop :=
  ∀ link ∈ document.links, link.Led present

structure Span where
  gap : List Char
  label : List Char
  target : List Char

namespace Span

def toText (span : Span) : List Char :=
  span.gap ++ Link.opening ++ span.label ++ Link.middle ++ span.target ++ [')']

/-- A search that resumes inside the label has to find a bracket there, or none in the span. -/
structure Stable (present : List Char → Prop) (span : Span) : Prop where
  gap : '[' ∉ span.gap
  label : ¬ Link.middle <:+: span.label
  target : ¬ Link.closing <:+: span.target
  hidden : Link.closing <:+: span.label → '[' ∉ span.target
  leads : Link.scheme <:+: span.target ∨ Link.pageEnding <:+ span.target ∧ present span.target

end Span

/-- Every link is led to its place, whether the search starts before the text or has yet to find
the end of a link in it. -/
structure Resumable (present : List Char → Prop) (text : List Char) : Prop where
  here : ∀ gap, '[' ∉ gap → (Document.ofText (gap ++ text)).Led present
  past : ∀ before after, Text.cut? Link.closing text = some (before, after) →
    (Document.ofText after).Led present

variable {present : List Char → Prop} {text rest : List Char} {span : Span}

theorem Document.led_of_unread (unread : ∀ link : Link, ¬ link.toText <:+: text) :
    (Document.ofText text).Led present := by
  rw [Document.ofText_of_next?_eq_none (Link.next?_eq_none_iff.2 unread)]
  simp [Document.Led, Document.links]

theorem Document.led_of_next? {gap : List Char} {link : Link}
    (found : Link.next? text = some (gap, link, rest)) (led : link.Led present)
    (others : (Document.ofText rest).Led present) : (Document.ofText text).Led present := by
  rw [Document.ofText_of_next? found]
  exact List.forall_mem_cons.2 ⟨led, others⟩

theorem resumable_of_unread (unread : ∀ link : Link, ¬ link.toText <:+: text) :
    Resumable present text where
  here gap bare := by
    have next := Link.next?_bare_append text bare
    rw [Link.next?_eq_none_iff.2 unread] at next
    exact Document.led_of_unread (Link.next?_eq_none_iff.1 next)
  past before after found := by
    apply Document.led_of_unread
    intro link occurs
    refine unread link (occurs.trans ?_)
    rw [Text.eq_append_of_cut? found]
    exact (List.suffix_append _ after).isInfix

namespace Span

theorem Stable.led (stable : span.Stable present) (resumable : Resumable present rest)
    {gap label : List Char} (bare : '[' ∉ gap) (first : ¬ Link.middle <:+: label) :
    (Document.ofText (gap ++ Link.opening ++ label ++ Link.middle ++
      (span.target ++ [')'] ++ rest))).Led present := by
  have next := Link.next?_of_middle (span.target ++ [')'] ++ rest) bare first
  by_cases ends : Link.pageEnding <:+ span.target
  · obtain ⟨stem, same⟩ := ends
    have last : ¬ Link.closing <:+: stem := fun inside =>
      stable.target (inside.trans (same ▸ List.prefix_append stem _).isInfix)
    have cutTarget : Text.cut? Link.closing (span.target ++ [')'] ++ rest) = some (stem, rest) :=
      (Text.cut?_eq_some_iff Link.closing_endsOnce).2
        ⟨by simp [← same, Link.closing, Link.pageEnding], last⟩
    have led : Link.Led present ⟨label, stem⟩ := by
      have fileName : Link.fileName ⟨label, stem⟩ = span.target := same
      rw [Link.Led, Link.isExternal_iff, fileName]
      exact stable.leads.imp_right And.right
    rw [cutTarget] at next
    exact Document.led_of_next? next led (by simpa using resumable.here [] (by simp))
  · have scheme := stable.leads.resolve_right (ends ·.1)
    have parted : Text.Parted Link.closing (span.target ++ [')']) rest :=
      Text.parted_of_last (by decide)
    rw [Text.cut?_append parted (by decide), Link.cut?_closing_eq_none stable.target ends] at next
    cases found : Text.cut? Link.closing rest with
    | none =>
      rw [found] at next
      rw [Document.ofText_of_next?_eq_none next]
      simp [Document.Led, Document.links]
    | some parts =>
      obtain ⟨before, after⟩ := parts
      rw [found] at next
      -- The search has run past the end of the span, but the target is still in what it met.
      refine Document.led_of_next? next (.inl (Link.isExternal_iff.2 ?_))
        (resumable.past before after found)
      refine scheme.trans ⟨[], ')' :: before ++ Link.pageEnding, ?_⟩
      simp [Link.fileName, Link.pageEnding]

theorem closing_before {tail before after : List Char} (outside : ')' ∉ tail)
    (found : Text.cut? Link.closing (text ++ tail) = some (before, after)) :
    ∃ more, Link.closing ++ more <:+ text ∧ after = more ++ tail := by
  have same : before ++ Link.pageEnding ++ ')' :: after = text ++ tail := by
    simp [Text.eq_append_of_cut? found, Link.closing, Link.pageEnding]
  obtain ⟨more, rfl, rfl⟩ := Text.exists_append_of_not_mem_back outside same
  exact ⟨more, ⟨before, by simp [Link.closing, Link.pageEnding]⟩, rfl⟩

/-- A search for the end of a link finds it in the gap, in the label, at the end of the target,
or after the span. -/
theorem closing_places (first : ¬ Link.closing <:+: span.target) {before after : List Char}
    (found : Text.cut? Link.closing (span.toText ++ rest) = some (before, after)) :
    (∃ more, more <:+ span.gap ∧
      after = more ++ Link.opening ++ span.label ++ Link.middle ++ (span.target ++ [')'] ++ rest)) ∨
    (∃ more, Link.closing ++ more <:+ span.label ∧
      after = more ++ Link.middle ++ (span.target ++ [')'] ++ rest)) ∨
    after = rest ∨
    ∃ before', Text.cut? Link.closing rest = some (before', after) := by
  have split : span.toText ++ rest = (span.gap ++ ['[']) ++
      ((span.label ++ [']'] ++ ['(']) ++ ((span.target ++ [')']) ++ rest)) := by
    simp [toText, Link.opening, Link.middle]
  -- Gap, label and target end with characters that an end of a link does not go through.
  have parted {front back : List Char} {last : Char} (ends : last ∉ Link.pageEnding) :
      Text.Parted Link.closing (front ++ [last]) back := Text.parted_of_last ends
  rw [split] at found
  rcases Text.cut?_append_cases (parted (by decide)) (by decide) found with
    ⟨more, inGap, rfl⟩ | ⟨_, found⟩
  · obtain ⟨more, ends, rfl⟩ := closing_before (by decide) inGap
    exact .inl ⟨more, (List.suffix_append _ more).trans ends, by simp [Link.opening, Link.middle]⟩
  rcases Text.cut?_append_cases (parted (by decide)) (by decide) found with
    ⟨more, inLabel, rfl⟩ | ⟨_, found⟩
  · rw [List.append_assoc] at inLabel
    obtain ⟨more, ends, rfl⟩ := closing_before (by decide) inLabel
    exact .inr (.inl ⟨more, ends, by simp [Link.middle]⟩)
  rcases Text.cut?_append_cases (parted (by decide)) (by decide) found with
    ⟨more, inTarget, rfl⟩ | ⟨before', found⟩
  · have same := Text.eq_append_of_cut? inTarget
    rcases List.eq_nil_or_concat more with rfl | ⟨more, last, rfl⟩
    · exact .inr (.inr (.inl rfl))
    · rw [List.concat_eq_append, ← List.append_assoc] at same
      rw [(List.append_inj' same rfl).1] at first
      exact absurd (List.infix_append _ Link.closing more) first
  · exact .inr (.inr (.inr ⟨before', found⟩))

end Span

theorem Resumable.append_span (stable : span.Stable present)
    (resumable : Resumable present rest) : Resumable present (span.toText ++ rest) where
  here gap bare := by
    have bare' : '[' ∉ gap ++ span.gap := by simp [bare, stable.gap]
    have led := stable.led resumable bare' stable.label
    simpa [Span.toText] using led
  past before after found := by
    rcases Span.closing_places stable.target found with
      ⟨more, inGap, rfl⟩ | ⟨more, inLabel, rfl⟩ | rfl | ⟨before', found'⟩
    · exact stable.led resumable (fun member => stable.gap (inGap.subset member)) stable.label
    · by_cases bracket : '[' ∈ more
      · obtain ⟨gap, label, rfl, bare⟩ := List.eq_append_cons_of_mem bracket
        have ends : label <:+ span.label :=
          List.IsSuffix.trans ⟨Link.closing ++ gap ++ ['['], by simp⟩ inLabel
        have first : ¬ Link.middle <:+: label := fun inside =>
          stable.label (inside.trans ends.isInfix)
        simpa [Link.opening] using stable.led resumable bare first
      · -- No bracket is left in the span, so the search goes on behind it.
        have bare := stable.hidden ((List.prefix_append _ more).isInfix.trans inLabel.isInfix)
        have led := resumable.here (more ++ Link.middle ++ span.target ++ [')'])
          (by simp [bracket, bare, Link.middle])
        simpa using led
    · simpa using resumable.here [] (by simp)
    · exact resumable.past before' after found'

end BrokenLinks
