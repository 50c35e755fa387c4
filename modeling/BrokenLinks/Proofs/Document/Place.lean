import BrokenLinks.Proofs.Document.Canonical
import BrokenLinks.Proofs.Text.Measure

/-! Where the links of a document stand.

A link stands behind all the parts before it. So of the documents that read as a text, the canonical
one is that whose links are where the search finds them, and text that is put behind another moves
none of the links in front of it. -/

set_option autoImplicit false

namespace BrokenLinks

open Text (utf8Length)

def Occurrence.shift (offset : Nat) (occurrence : Occurrence) : Occurrence :=
  { occurrence with start := offset + occurrence.start, stop := offset + occurrence.stop }

namespace Document

variable {document other : Document} {gap : List Char}

def linkedText (linked : List (List Char × Link)) : List Char :=
  linked.flatMap fun (gap, link) => gap ++ link.toText

theorem toText_eq (document : Document) :
    document.toText = linkedText document.linked ++ document.remainder := rfl

theorem linkedText_cons (gap : List Char) (link : Link) (linked : List (List Char × Link)) :
    linkedText ((gap, link) :: linked) = gap ++ link.toText ++ linkedText linked := rfl

def occurrence? (document : Document) (index : Nat) : Option Occurrence :=
  document.linked[index]?.map fun (gap, link) =>
    let before := linkedText (document.linked.take index) ++ gap
    ⟨link, utf8Length before, utf8Length (before ++ link.toText)⟩

theorem getElem?_occurrencesFrom (offset index : Nat) (linked : List (List Char × Link)) :
    (occurrencesFrom offset linked)[index]? =
      linked[index]?.map fun (gap, link) =>
        let before := linkedText (linked.take index) ++ gap
        ⟨link, offset + utf8Length before, offset + utf8Length (before ++ link.toText)⟩ := by
  induction linked generalizing offset index with
  | nil => simp [occurrencesFrom]
  | cons part linked ih =>
    obtain ⟨gap, link⟩ := part
    cases index with
    | zero => simp [occurrencesFrom, linkedText, Nat.add_assoc]
    | succ index => simp [occurrencesFrom, ih, linkedText_cons, Nat.add_assoc]

theorem getElem?_occurrences (document : Document) (index : Nat) :
    document.occurrences[index]? = document.occurrence? index := by
  simp [occurrences, occurrence?, getElem?_occurrencesFrom]

theorem occurrencesFrom_append (offset : Nat) (front back : List (List Char × Link)) :
    occurrencesFrom offset (front ++ back) =
      occurrencesFrom offset front ++
        occurrencesFrom (offset + utf8Length (linkedText front)) back := by
  induction front generalizing offset with
  | nil => rfl
  | cons part front ih =>
    obtain ⟨gap, link⟩ := part
    simp [occurrencesFrom, ih, linkedText_cons, Nat.add_assoc]

theorem occurrencesFrom_add (offset start : Nat) (linked : List (List Char × Link)) :
    occurrencesFrom (offset + start) linked =
      (occurrencesFrom start linked).map (Occurrence.shift offset) := by
  induction linked generalizing start with
  | nil => rfl
  | cons part linked ih => simp [occurrencesFrom, ← ih, Occurrence.shift, Nat.add_assoc]

/-! ## The canonical cut -/

theorem eq_of_occurrencesFrom_eq {offset : Nat}
    (places : occurrencesFrom offset document.linked = occurrencesFrom offset other.linked)
    (same : document.toText = other.toText) : document = other := by
  obtain ⟨linked, remainder⟩ := document
  obtain ⟨linked', remainder'⟩ := other
  simp only [toText_eq] at places same
  -- Part by part: equal starts give equal gaps, and then the rest of both texts is the same.
  induction linked generalizing linked' offset with
  | nil =>
    cases linked' with
    | nil => simpa [linkedText] using same
    | cons part' linked' => simp [occurrencesFrom] at places
  | cons part linked ih =>
    cases linked' with
    | nil => simp [occurrencesFrom] at places
    | cons part' linked' =>
      obtain ⟨gap, link⟩ := part
      obtain ⟨gap', link'⟩ := part'
      simp only [occurrencesFrom, List.cons.injEq, Occurrence.mk.injEq] at places
      obtain ⟨⟨rfl, start, stop⟩, others⟩ := places
      simp only [linkedText_cons, List.append_assoc] at same
      obtain ⟨rfl, inLink⟩ := Text.append_inj_of_utf8Length same (Nat.add_left_cancel start)
      have rest := ih _ others (List.append_cancel_left inLink)
      simpa using rest

/-- A document is canonical if its links are where the search finds them, and only then. -/
theorem canonical_iff_occurrences_eq (document : Document) :
    document.Canonical ↔ (ofText document.toText).occurrences = document.occurrences := by
  constructor
  · intro canonical
    rw [canonical.ofText_toText]
  · intro places
    have same := eq_of_occurrencesFrom_eq places (toText_ofText document.toText)
    exact same ▸ canonical_ofText document.toText

/-- Every text has one canonical cut. A search in the text of some gaps and links finds exactly
these links, each behind the parts before it, just in case they are such a cut. -/
theorem one_canonical_cut :
    (∀ text : List Char, ∃! document : Document, document.Canonical ∧ document.toText = text) ∧
      ∀ document : Document, document.Canonical ↔
        ∀ index, (ofText document.toText).occurrences[index]? = document.occurrence? index := by
  refine ⟨fun text => ⟨ofText text, ⟨canonical_ofText text, toText_ofText text⟩, ?_⟩,
    fun document => ?_⟩
  · rintro document ⟨canonical, rfl⟩
    exact canonical.ofText_toText.symm
  · simp only [canonical_iff_occurrences_eq, List.ext_getElem?_iff, getElem?_occurrences]

/-! ## Text put behind another -/

theorem ofText_append_eq (front back : List Char) :
    let rest := ofText ((ofText front).remainder ++ back)
    ofText (front ++ back) = ⟨(ofText front).linked ++ rest.linked, rest.remainder⟩ := by
  fun_induction ofText front with
  | case1 front none => rfl
  | case2 front gap link after found others ih =>
    obtain ⟨rfl, bare, canonical⟩ := Link.next?_eq_some_iff.1 found
    -- No delimiter of the first link is found any sooner with more text behind it.
    rw [List.append_assoc, ofText_append (after ++ back) bare canonical, ih]
    rfl

theorem occurrencesFrom_ofText_append (offset : Nat) (bare : '[' ∉ gap) (text : List Char) :
    occurrencesFrom offset (ofText (gap ++ text)).linked =
      occurrencesFrom (offset + utf8Length gap) (ofText text).linked := by
  have next := Link.next?_bare_append text bare
  cases found : Link.next? text with
  | none =>
    rw [found] at next
    rw [ofText_of_next?_eq_none found, ofText_of_next?_eq_none next]
    rfl
  | some parts =>
    obtain ⟨gap', link, rest⟩ := parts
    rw [found] at next
    rw [ofText_of_next? found, ofText_of_next? next]
    simp [occurrencesFrom, Nat.add_assoc]

/-- Text that is put behind another changes nothing about the links found in that. If no bracket is
left open behind them, the links of both texts are found, and no others. -/
theorem occurrences_ofText_append (front back : List Char) :
    (ofText front).occurrences <+: (ofText (front ++ back)).occurrences ∧
      ('[' ∉ (ofText front).remainder →
        (ofText (front ++ back)).occurrences = (ofText front).occurrences ++
          (ofText back).occurrences.map (Occurrence.shift (utf8Length front))) := by
  have whole : (ofText (front ++ back)).occurrences = (ofText front).occurrences ++
      occurrencesFrom (utf8Length (linkedText (ofText front).linked))
        (ofText ((ofText front).remainder ++ back)).linked := by
    rw [ofText_append_eq, occurrences, occurrencesFrom_append, Nat.zero_add]
    rfl
  refine ⟨⟨_, whole.symm⟩, fun bare => ?_⟩
  have long : utf8Length (linkedText (ofText front).linked) +
      utf8Length (ofText front).remainder = utf8Length front := by
    rw [← Text.utf8Length_append, ← toText_eq, toText_ofText]
  have shifted := occurrencesFrom_add (utf8Length front) 0 (ofText back).linked
  rw [whole, occurrencesFrom_ofText_append _ bare, long]
  exact congrArg _ shifted

theorem occurrences_ofText_append_past_delimiters :
    let front := "é [a](Q1.md) ](b.md) ü".toList
    let back := "ö](c.md) [d [e](P2.md)[f".toList
    '[' ∉ (ofText front).remainder ∧
      (ofText (front ++ back)).occurrences = (ofText front).occurrences ++
        (ofText back).occurrences.map (Occurrence.shift (utf8Length front)) := by
  have bare : '[' ∉ (ofText "é [a](Q1.md) ](b.md) ü".toList).remainder := by decide +kernel
  exact ⟨bare, (occurrences_ofText_append _ _).2 bare⟩

end Document

end BrokenLinks
