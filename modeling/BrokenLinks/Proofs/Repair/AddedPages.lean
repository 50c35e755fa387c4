import BrokenLinks.Proofs.Repair.Piecewise

/-! Repairs of one text before and after pages have been added.

A link whose page has been added is kept, and what is kept may be a placeholder target that was not
there to be found before. So the second substitution can be a change that it was not, but then a
link is no longer one. The first substitution finds nothing that it has not found before. -/

set_option autoImplicit false

namespace BrokenLinks

open Substitution

variable {isLocal before after : List Char → Bool} {text : List Char}

namespace Link

variable {link : Link}

theorem redirected_of_led (led : link.Led (isLocal · = true)) :
    link.redirected isLocal = link.toText := by
  rw [← settled_verdict_eq_redirected, settled_of_led led]

theorem redirected_of_not_led (broken : ¬ link.Led (isLocal · = true)) :
    link.redirected isLocal = opening ++ link.label ++ middle ++ link.page.url ++ [')'] := by
  have missing := Classical.not_not.1 (mt verdict_ne_missing_iff.1 broken)
  rw [← settled_verdict_eq_redirected, missing]
  rfl

theorem isExternal_of_scheme_infix (found : scheme <:+: middle ++ (link.fileName ++ [')'])) :
    link.isExternal = true := by
  -- The delimiters around a file name are no part of a scheme.
  have behindMiddle : Text.Parted scheme middle (link.fileName ++ [')']) :=
    Text.parted_of_getLast? (show _ = some '(' by decide) (by decide)
  have beforeEnd : Text.Parted scheme link.fileName [')'] :=
    Text.parted_of_head? rfl (by decide)
  rw [behindMiddle.infix_append_iff, beforeEnd.infix_append_iff] at found
  exact isExternal_iff.2 ((found.resolve_left (by decide)).resolve_right (by decide))

/-- A link that holds a placeholder link has its address behind the label, and so leads out of the
tree. -/
theorem isExternal_of_placeholderLink_infix (canonical : link.Canonical)
    (marked : placeholderLink.pattern <:+: link.toText) : link.isExternal = true := by
  obtain ⟨front, back, same⟩ := marked
  have pattern : placeholderLink.pattern =
      ['[', '!'] ++ middle ++ (WikidataPage.baseUrl ++ ['!', ')']) := by decide
  have atMiddle : (opening ++ link.label) ++ middle ++ (link.fileName ++ [')']) =
      (front ++ ['[', '!']) ++ middle ++ (WikidataPage.baseUrl ++ ['!', ')'] ++ back) := by
    rw [pattern] at same
    simpa [toText_eq] using same.symm
  -- The first middle is that of the link itself, so the other one is there or behind it.
  obtain ⟨more, passed⟩ := Text.prefix_of_first middle_endsOnce
    (not_middle_infix_opening_append canonical.label) atMiddle
  simp only [← passed, List.append_assoc, List.append_cancel_left_eq] at atMiddle
  apply isExternal_of_scheme_infix
  rw [atMiddle]
  exact (WikidataPage.scheme_infix_of_mem (.head _)).trans
    ⟨more ++ middle, ['!', ')'] ++ back, by simp⟩

end Link

theorem Repair.replacedLinks_eq_zero_iff :
    replacedLinks isLocal text = 0 ↔
      ∀ part ∈ (Document.ofText text).parts isLocal, ¬ placeholderLink.pattern <:+: part := by
  -- A placeholder link that the first substitution finds stands in one of the parts.
  rw [replacedLinks, Text.occurrences_eq_zero_iff placeholderLink_ne_nil, settledText,
    ← Document.flatten_parts, Document.infix_flatten_parts_iff (by decide) (by decide)]
  simp

/-- The links that are led to Wikidata before, and kept after. -/
def Document.rescued (before after : List Char → Bool) (document : Document) : List Link :=
  (document.missing before).filter (·.verdict after ≠ .missing)

section Added

variable (added : ∀ name, before name = true → after name = true)

include added

namespace Link

variable {link : Link}

theorem Led.of_added (led : link.Led (before · = true)) : link.Led (after · = true) :=
  led.imp_right (added link.fileName)

theorem redirected_eq_of_marked (canonical : link.Canonical)
    (marked : placeholderLink.pattern <:+: link.redirected after) :
    link.redirected after = link.redirected before := by
  -- Kept within the tree it could not be marked; led to Wikidata it has been so before.
  by_cases kept : link.Led (after · = true)
  · rw [redirected_of_led kept] at marked ⊢
    have led := isExternal_of_placeholderLink_infix canonical marked
    rw [redirected_of_led (.inl led)]
  · rw [redirected_of_not_led kept, redirected_of_not_led (mt (Led.of_added added) kept)]

end Link

namespace Document

variable {document : Document}

theorem missing_eq_filter (document : Document) :
    document.missing after = (document.missing before).filter (·.verdict after = .missing) := by
  rw [missing, missing, List.filter_filter]
  refine List.filter_congr fun link _ => ?_
  -- Whatever is led away after was led away before, since a page can only have come in between.
  have still : link.verdict after = .missing → link.verdict before = .missing := by
    contrapose
    simpa only [← ne_eq, Link.verdict_ne_missing_iff] using Link.Led.of_added added
  by_cases missing : link.verdict after = .missing
  · simp [missing, still missing]
  · simp [missing]

theorem length_missing_eq (document : Document) :
    (document.missing before).length =
      (document.missing after).length + (document.rescued before after).length := by
  -- A link that was led to Wikidata still is, unless it is rescued.
  rw [missing_eq_filter added, rescued,
    (document.missing before).length_eq_length_filter_add (·.verdict after = .missing)]
  simp

theorem verdict_eq_of_rescued_eq_nil (none : document.rescued before after = []) {link : Link}
    (member : link ∈ document.links) :
    link.verdict after = link.verdict before := by
  by_cases missing : link.verdict before = .missing
  · have inMissing : link ∈ document.missing before :=
      List.mem_filter.2 ⟨member, by simpa using missing⟩
    have still := List.filter_eq_nil_iff.1 none link inMissing
    rw [missing]
    simpa using still
  · unfold Link.verdict
    rcases Link.verdict_ne_missing_iff.1 missing with external | found
    · simp [external]
    · simp [found, added _ found]

theorem mem_parts_of_marked (canonical : document.Canonical) {part : List Char}
    (member : part ∈ document.parts after) (marked : placeholderLink.pattern <:+: part) :
    part ∈ document.parts before := by
  simp only [parts, List.mem_append, List.mem_flatMap, List.mem_cons, List.not_mem_nil,
    or_false] at member ⊢
  refine member.imp_left ?_
  rintro ⟨⟨gap, link⟩, inText, rfl | rfl⟩
  · exact ⟨_, inText, .inl rfl⟩
  · exact ⟨_, inText, .inr (Link.redirected_eq_of_marked added (canonical.links _ inText) marked)⟩

end Document

namespace Repair

theorem ofText_eq_of_rescued_eq_nil
    (none : (Document.ofText text).rescued before after = []) :
    ofText after text = ofText before text := by
  rw [ofText_eq, ofText_eq]
  refine congrArg _ (List.map_congr_left fun link member => ?_)
  exact Document.verdict_eq_of_rescued_eq_nil added none member

theorem replacedLinks_eq_zero_of_added (none : replacedLinks before text = 0) :
    replacedLinks after text = 0 := by
  rw [replacedLinks_eq_zero_iff] at none ⊢
  intro part member marked
  exact none part
    (Document.mem_parts_of_marked added (Document.canonical_ofText text) member marked) marked

/-- Each rescued link is a change less, and there is at most one change more. -/
theorem changes_add_rescued_le (text : List Char) :
    (ofText after text).changes + ((Document.ofText text).rescued before after).length ≤
      (ofText before text).changes + 1 := by
  have counted := (Document.ofText text).length_missing_eq added
  have links := @replacedLinks_eq_zero_of_added _ _ text added
  rw [changes_eq, changes_eq]
  omega

end Repair

end Added

namespace Repair

/-- Pages that are added never make for more changes. Each link that they rescue is a change less,
and at most one of these is made up for. -/
theorem changes_le_of_added (added : ∀ name, before name = true → after name = true)
    (text : List Char) :
    (ofText after text).changes ≤ (ofText before text).changes ∧
      (ofText after text).changes + ((Document.ofText text).rescued before after).length ≤
        (ofText before text).changes + 1 := by
  have fewer := changes_add_rescued_le added text
  refine ⟨?_, fewer⟩
  -- The one change that can be new is made up for by any rescued link, and without one nothing is.
  by_cases none : (Document.ofText text).rescued before after = []
  · rw [ofText_eq_of_rescued_eq_nil added none]
  · have some := List.length_pos_iff.2 none
    omega

theorem changes_le_of_added_placeholder_page :
    let text := "[a](!.md) [b](Q2.md) [c](Q3.md)".toList
    let before := fun name => decide (name = "Q3.md".toList)
    let after := fun name => decide (name = "Q3.md".toList ∨ name = "!.md".toList)
    (∀ name, before name = true → after name = true) ∧ (ofText before text).changes = 2 ∧
      ((Document.ofText text).rescued before after).length = 1 ∧
      (ofText after text).changes ≤ (ofText before text).changes ∧
      (ofText after text).changes + ((Document.ofText text).rescued before after).length ≤
        (ofText before text).changes + 1 := by
  intro text before after
  have added : ∀ name, before name = true → after name = true := by
    simp +contextual [before, after]
  exact ⟨added, by decide +kernel, by decide +kernel, changes_le_of_added added text⟩

end Repair

end BrokenLinks
