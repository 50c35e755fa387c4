import BrokenLinks.Proofs.Repair.Growth

/-! Repairs made over and over again.

A `.md` is lost with each link that is led to Wikidata and with each placeholder target, and none is
made. After the first pass no placeholder is left, so a pass that changes anything leads a link to
Wikidata, and the number of `.md` bounds how many such passes there can be. -/

set_option autoImplicit false

namespace BrokenLinks

open Text (occurrences)

variable {isLocal : List Char → Bool} {text : List Char}

/-! ## What becomes of the page endings -/

namespace Link

theorem pageEnding_ne_nil : pageEnding ≠ [] := by decide

theorem pageEnding_endsOnce : Text.EndsOnce pageEnding := ⟨'d', rfl, by decide⟩

theorem occurrences_fileName (link : Link) :
    occurrences pageEnding link.fileName = occurrences pageEnding link.stem + 1 := by
  have alone := Text.occurrences_pattern_append pageEnding_ne_nil []
  rw [List.append_nil] at alone
  have parted : Text.Parted pageEnding link.stem (pageEnding ++ []) :=
    pageEnding_endsOnce.parted_before
  rw [List.append_nil] at parted
  rw [show link.fileName = link.stem ++ pageEnding from rfl,
    Text.occurrences_append pageEnding_ne_nil parted, alone]
  rfl

theorem occurrences_url (link : Link) :
    occurrences pageEnding link.page.url = occurrences pageEnding link.stem := by
  have bases : ∀ base ∈ WikidataPage.bases, occurrences pageEnding base = 0 ∧
      ∃ last, base.getLast? = some last ∧ last ∉ pageEnding.dropLast := by
    simp only [WikidataPage.bases, List.forall_mem_cons]
    exact ⟨⟨by decide, '/', by decide⟩, ⟨by decide, ':', by decide⟩, by simp⟩
  obtain ⟨base, known, url⟩ := link.page_url
  obtain ⟨none, last, closes, ends⟩ := bases base known
  rw [url, Text.occurrences_append pageEnding_ne_nil (Text.parted_of_getLast? closes ends), none,
    Nat.zero_add]

def Delimited (text : List Char) : Prop :=
  ∀ c ∈ [text.head?, text.getLast?], c ∈ ['[', ']', '(', ')'].map some

instance : DecidablePred Delimited :=
  fun text => inferInstanceAs (Decidable (∀ c ∈ [text.head?, text.getLast?], _))

theorem walled_of_delimited {text : List Char} (delimited : Delimited text) :
    Text.Walled pageEnding text := by
  -- Neither brackets nor parentheses occur in a page ending.
  have outside : ∀ c ∈ ['[', ']', '(', ')'], c ∉ pageEnding.tail ∧ c ∉ pageEnding.dropLast := by
    simp [pageEnding]
  obtain ⟨first, known, opens⟩ := List.mem_map.1 (delimited _ (.head _))
  obtain ⟨last, known', closes⟩ := List.mem_map.1 (delimited _ (.tail _ (.head _)))
  exact Text.walled_of_ends opens.symm closes.symm (outside first known).1 (outside last known').2

theorem occurrences_around (gap label target rest : List Char) :
    occurrences pageEnding (gap ++ opening ++ label ++ middle ++ target ++ [')'] ++ rest) =
      occurrences pageEnding gap + occurrences pageEnding label + occurrences pageEnding target +
        occurrences pageEnding rest := by
  have walled : ∀ mark ∈ [opening, middle, [')']], Text.Walled pageEnding mark ∧
      occurrences pageEnding mark = 0 := by
    have delimited : ∀ mark ∈ [opening, middle, [')']], Delimited mark ∧
        occurrences pageEnding mark = 0 := by decide
    exact fun mark known => (delimited mark known).imp_left walled_of_delimited
  obtain ⟨atOpening, noneOpening⟩ := walled opening (.head _)
  obtain ⟨atMiddle, noneMiddle⟩ := walled middle (.tail _ (.head _))
  obtain ⟨atEnd, noneEnd⟩ := walled [')'] (.tail _ (.tail _ (.head _)))
  simp only [List.append_assoc, atOpening.occurrences_append pageEnding_ne_nil,
    atMiddle.occurrences_append pageEnding_ne_nil, atEnd.occurrences_append pageEnding_ne_nil,
    noneOpening, noneMiddle, noneEnd]
  omega

theorem occurrences_settled (link : Link) (isLocal : List Char → Bool)
    (gap rest rest' : List Char) {lost : Nat}
    (others : occurrences pageEnding rest' + lost = occurrences pageEnding rest) :
    occurrences pageEnding (gap ++ link.settled (link.verdict isLocal) ++ rest') +
        ((if link.verdict isLocal = .missing then 1 else 0) + lost) =
      occurrences pageEnding (gap ++ link.toText ++ rest) := by
  have whole : gap ++ link.toText ++ rest =
      gap ++ opening ++ link.label ++ middle ++ link.fileName ++ [')'] ++ rest := by
    simp only [toText_eq, List.append_assoc]
  have around := occurrences_around gap link.label link.fileName
  rw [settled_verdict, Span.toText, whole, occurrences_around, around]
  unfold target
  cases link.verdict isLocal <;>
    simp only [occurrences_url, occurrences_fileName, reduceCtorEq, if_true, if_false] <;> omega

end Link

theorem Document.occurrences_settle (isLocal : List Char → Bool) (document : Document) :
    Text.occurrences Link.pageEnding (document.settle (document.links.map (·.verdict isLocal))) +
        (document.missing isLocal).length =
      Text.occurrences Link.pageEnding document.toText := by
  obtain ⟨linked, remainder⟩ := document
  simp only [settle, toText, missing, links]
  induction linked with
  | nil => rfl
  | cons part linked ih =>
    obtain ⟨gap, link⟩ := part
    have first := link.occurrences_settled isLocal gap _ _ ih
    simp only [List.map_cons, List.zip_cons_cons, List.flatMap_cons, List.filter_cons,
      decide_eq_true_eq]
    by_cases missing : link.verdict isLocal = .missing
    · simpa [missing, Nat.add_comm] using first
    · simpa [missing] using first

namespace Substitution

theorem occurrences_link (text : List Char) :
    occurrences Link.pageEnding (placeholderLink.apply text) =
      occurrences Link.pageEnding text := by
  have ends : Text.EndsOnce placeholderLink.pattern := ⟨')', by decide, by decide⟩
  have outside : Text.Walled Link.pageEnding placeholderLink.pattern :=
    Link.walled_of_delimited (by decide)
  have inside : Text.Walled Link.pageEnding placeholderLink.substitute :=
    Link.walled_of_delimited (by decide)
  have none : occurrences Link.pageEnding placeholderLink.pattern = 0 ∧
      occurrences Link.pageEnding placeholderLink.substitute = 0 := by decide
  have replaced := Text.occurrences_replaceAll Link.pageEnding_ne_nil ends outside inside text
  rwa [none.1, none.2, Nat.mul_zero, Nat.add_zero, Nat.add_zero] at replaced

theorem occurrences_target (text : List Char) :
    occurrences Link.pageEnding (placeholderTarget.apply text) +
        occurrences placeholderTarget.pattern text =
      occurrences Link.pageEnding text := by
  have ends : Text.EndsOnce placeholderTarget.pattern := ⟨')', by decide, by decide⟩
  have outside : Text.Walled Link.pageEnding placeholderTarget.pattern :=
    Link.walled_of_delimited (by decide)
  have inside : Text.Walled Link.pageEnding placeholderTarget.substitute :=
    Link.walled_of_delimited (by decide)
  have one : occurrences Link.pageEnding placeholderTarget.pattern = 1 ∧
      occurrences Link.pageEnding placeholderTarget.substitute = 0 := by decide
  have replaced := Text.occurrences_replaceAll Link.pageEnding_ne_nil ends outside inside text
  rwa [one.1, one.2, Nat.mul_one, Nat.mul_zero, Nat.add_zero] at replaced

end Substitution

namespace Repair

/-- Each `.md` that a repair removes is of a link led to Wikidata or of a placeholder target. -/
theorem occurrences_text (isLocal : List Char → Bool) (text : List Char) :
    occurrences Link.pageEnding (ofText isLocal text).text +
        ((Document.ofText text).missing isLocal).length + replacedTargets isLocal text =
      occurrences Link.pageEnding text := by
  have settled := (Document.ofText text).occurrences_settle isLocal
  rw [Document.toText_ofText] at settled
  have linked := Substitution.occurrences_link (settledText isLocal text)
  have targets := Substitution.occurrences_target
    (Substitution.placeholderLink.apply (settledText isLocal text))
  rw [text_eq_apply, replacedTargets]
  unfold settledText at *
  omega

/-! ## Passes -/

def pass (isLocal : List Char → Bool) (text : List Char) : List Char :=
  (ofText isLocal text).text

theorem occurrences_pass_lt {text : List Char}
    (changed : (ofText isLocal (pass isLocal text)).changes ≠ 0) :
    occurrences Link.pageEnding (pass isLocal (pass isLocal text)) <
      occurrences Link.pageEnding (pass isLocal text) := by
  -- With no placeholder left, only a link that is led to Wikidata is a change.
  have accounted := occurrences_text isLocal (pass isLocal text)
  have some : ((Document.ofText (pass isLocal text)).missing isLocal).length ≠ 0 := by
    rw [Document.length_missing, ne_eq, Document.count_missing_eq_zero_iff]
    exact mt changes_text_eq_zero_iff.2 changed
  unfold pass at *
  omega

theorem exists_unchanged_of_pass (isLocal : List Char → Bool) (text : List Char) :
    ∃ passes ≤ occurrences Link.pageEnding (pass isLocal text),
      (ofText isLocal ((pass isLocal)^[passes] (pass isLocal text))).changes = 0 := by
  induction h : occurrences Link.pageEnding (pass isLocal text) using Nat.strong_induction_on
    generalizing text with
  | h count ih =>
    by_cases unchanged : (ofText isLocal (pass isLocal text)).changes = 0
    · exact ⟨0, Nat.zero_le _, unchanged⟩
    · have fewer := occurrences_pass_lt unchanged
      rw [h] at fewer
      obtain ⟨passes, bounded, settled⟩ := ih _ fewer (pass isLocal text) rfl
      exact ⟨passes + 1, by omega, settled⟩

/-- Every pass accounts for the page endings that it removes, so the passes over a text come to
rest: after at most one more than the text has page endings, none changes anything any more. -/
theorem passes_come_to_rest (isLocal : List Char → Bool) (text : List Char) :
    occurrences Link.pageEnding (ofText isLocal text).text +
        ((Document.ofText text).missing isLocal).length + replacedTargets isLocal text =
      occurrences Link.pageEnding text ∧
    ∃ passes ≤ occurrences Link.pageEnding text + 1, ∀ more,
      (ofText isLocal ((pass isLocal)^[passes + more] text)).changes = 0 ∧
        (pass isLocal)^[passes + more] text = (pass isLocal)^[passes] text := by
  have accounted := occurrences_text isLocal text
  refine ⟨accounted, ?_⟩
  obtain ⟨passes, bounded, unchanged⟩ := exists_unchanged_of_pass isLocal text
  have bounded' : passes + 1 ≤ occurrences Link.pageEnding text + 1 := by
    unfold pass at bounded
    omega
  refine ⟨passes + 1, bounded', fun more => ?_⟩
  have rest : (pass isLocal)^[passes + 1 + more] text = (pass isLocal)^[passes + 1] text := by
    rw [Nat.add_comm, Function.iterate_add_apply]
    exact Function.iterate_fixed (text_eq_of_changes_eq_zero unchanged) more
  exact ⟨by rw [rest]; exact unchanged, rest⟩

end Repair

end BrokenLinks
