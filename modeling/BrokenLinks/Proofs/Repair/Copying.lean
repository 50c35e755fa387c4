import BrokenLinks.Proofs.Document.Place
import BrokenLinks.Proofs.Repair.Growth
import BrokenLinks.Proofs.Text.Slice

/-! A repaired text, copied from the text itself by the offsets of its links.

The offsets of a link are the lengths of starts of the text, so the text can be cut there. The copy
goes from one link that is led to Wikidata to the next; links that are kept are not put out when
they are passed, but with the part in which they stand. -/

set_option autoImplicit false

namespace BrokenLinks

open Text (utf8Length)

theorem Link.utf8Length_toText (link : Link) :
    utf8Length link.toText = utf8Length link.label + utf8Length link.stem + 7 := by
  have opens : utf8Length opening = 1 := by decide
  have parts : utf8Length middle = 2 := by decide
  have closes : utf8Length closing = 4 := by decide
  simp only [toText, Text.utf8Length_append, opens, parts, closes]
  omega

namespace Document

variable {offset : Nat} {linked : List (List Char × Link)} {occurrence : Occurrence}
  {isLocal : List Char → Bool}

/-! ### Places of links -/

theorem exists_split_of_occurrencesFrom {before after : List Occurrence}
    (split : occurrencesFrom offset linked = before ++ occurrence :: after) :
    ∃ front gap back, linked = front ++ (gap, occurrence.link) :: back ∧
      before = occurrencesFrom offset front ∧
      occurrence.start = offset + utf8Length (linkedText front ++ gap) ∧
      occurrence.stop = occurrence.start + utf8Length occurrence.link.toText := by
  induction linked generalizing offset before with
  | nil => simp [occurrencesFrom] at split
  | cons part linked ih =>
    obtain ⟨gap, link⟩ := part
    cases before with
    | nil =>
      obtain ⟨rfl, -⟩ := List.cons.inj split
      exact ⟨[], gap, linked, rfl, rfl, by simp [linkedText], rfl⟩
    | cons first before =>
      obtain ⟨rfl, later⟩ := List.cons.inj split
      obtain ⟨front, gap', back, rfl, rfl, start, stop⟩ := ih later
      refine ⟨(gap, link) :: front, gap', back, rfl, rfl, ?_, stop⟩
      rw [start, linkedText_cons]
      simp only [Text.utf8Length_append]
      omega

theorem exists_parts_of_occurrences {text : List Char} {before after : List Occurrence}
    (split : (ofText text).occurrences = before ++ occurrence :: after) :
    ∃ front gap back, text = linkedText front ++ gap ++ occurrence.link.toText ++ back ∧
      before = occurrencesFrom 0 front ∧
      occurrence.start = utf8Length (linkedText front ++ gap) ∧
      occurrence.stop = utf8Length (linkedText front ++ gap ++ occurrence.link.toText) := by
  obtain ⟨front, gap, back, parts, rfl, start, stop⟩ := exists_split_of_occurrencesFrom split
  refine ⟨front, gap, linkedText back ++ (ofText text).remainder, ?_, rfl, ?_, ?_⟩
  · refine (toText_ofText text).symm.trans ?_
    rw [toText_eq, parts]
    simp [linkedText]
  · rw [start, Nat.zero_add]
  · rw [stop, start, Nat.zero_add, ← Text.utf8Length_append]

theorem bounds_of_mem_occurrencesFrom (member : occurrence ∈ occurrencesFrom offset linked) :
    offset ≤ occurrence.start ∧ occurrence.start < occurrence.stop := by
  obtain ⟨before, after, split⟩ := List.append_of_mem member
  obtain ⟨front, gap, back, -, -, start, stop⟩ := exists_split_of_occurrencesFrom split
  rw [Link.utf8Length_toText] at stop
  omega

theorem pairwise_occurrencesFrom (offset : Nat) (linked : List (List Char × Link)) :
    (occurrencesFrom offset linked).Pairwise fun earlier later => earlier.stop ≤ later.start := by
  induction linked generalizing offset with
  | nil => exact .nil
  | cons part linked ih =>
    exact .cons (fun later member => (bounds_of_mem_occurrencesFrom member).1) (ih _)

/-! ### Settled links -/

def settledLinks (isLocal : List Char → Bool) (linked : List (List Char × Link)) : List Char :=
  linked.flatMap fun (gap, link) => gap ++ link.settled (link.verdict isLocal)

theorem settledLinks_cons (isLocal : List Char → Bool) (gap : List Char) (link : Link)
    (linked : List (List Char × Link)) :
    settledLinks isLocal ((gap, link) :: linked) =
      gap ++ link.settled (link.verdict isLocal) ++ settledLinks isLocal linked := rfl

theorem settle_eq_settledLinks (isLocal : List Char → Bool) (document : Document) :
    document.settle (document.links.map (·.verdict isLocal)) =
      settledLinks isLocal document.linked ++ document.remainder := by
  simp [settle_map_verdict, settledLinks, spans, List.flatMap_map, Link.settled_verdict]

def grownBefore (isLocal : List Char → Bool) (place : Nat) (occurrences : List Occurrence) : Nat :=
  ((occurrences.filter fun occurrence =>
    occurrence.link.verdict isLocal = .missing ∧ occurrence.stop ≤ place).map
      (·.link.growth)).sum

theorem grownBefore_cons (isLocal : List Char → Bool) (place : Nat)
    (occurrence : Occurrence) (occurrences : List Occurrence) :
    grownBefore isLocal place (occurrence :: occurrences) =
      (if occurrence.stop ≤ place ∧ occurrence.link.verdict isLocal = .missing then
        occurrence.link.growth else 0) + grownBefore isLocal place occurrences := by
  unfold grownBefore
  by_cases before : occurrence.stop ≤ place <;>
    by_cases missing : occurrence.link.verdict isLocal = .missing <;> simp [before, missing]

theorem grownBefore_eq_zero {place : Nat} {occurrences : List Occurrence}
    (behind : ∀ occurrence ∈ occurrences, place < occurrence.stop) :
    grownBefore isLocal place occurrences = 0 := by
  rw [grownBefore, List.filter_eq_nil_iff.2]
  · rfl
  · intro occurrence member
    have := behind occurrence member
    simp only [decide_eq_true_eq, not_and]
    omega

theorem getElem?_settled_of_lt {gap : List Char} {link : Link} {place : Nat}
    (within : place < utf8Length (gap ++ link.toText))
    (kept : link.verdict isLocal = .missing → place < utf8Length gap) (back back' : List Char) :
    (Text.bytes (gap ++ link.settled (link.verdict isLocal) ++ back))[place]? =
      (Text.bytes (gap ++ link.toText ++ back'))[place]? := by
  by_cases missing : link.verdict isLocal = .missing
  · rw [List.append_assoc, List.append_assoc, Text.getElem?_bytes_of_lt (kept missing),
      Text.getElem?_bytes_of_lt (kept missing)]
  · rw [link.settled_of_ne_missing missing, Text.getElem?_bytes_of_lt within,
      Text.getElem?_bytes_of_lt within]

/-- What does not stand in a link that is led to Wikidata is moved by as much as the links before
it have grown, and is the same. -/
theorem getElem?_settledLinks (remainder : List Char) (place : Nat)
    (kept : ∀ occurrence ∈ occurrencesFrom offset linked,
      occurrence.link.verdict isLocal = .missing →
        ¬ (occurrence.start ≤ offset + place ∧ offset + place < occurrence.stop)) :
    (Text.bytes (settledLinks isLocal linked ++ remainder))[
        place + grownBefore isLocal (offset + place) (occurrencesFrom offset linked)]? =
      (Text.bytes (linkedText linked ++ remainder))[place]? := by
  induction linked generalizing offset place with
  | nil => rfl
  | cons part linked ih =>
    obtain ⟨gap, link⟩ := part
    obtain ⟨keptFirst, keptRest⟩ := List.forall_mem_cons.1 kept
    have length := Text.utf8Length_append gap link.toText
    simp only [settledLinks_cons, linkedText_cons, occurrencesFrom, grownBefore_cons] at keptFirst ⊢
    rw [List.append_assoc (gap ++ _), List.append_assoc (gap ++ _)]
    by_cases within : place < utf8Length (gap ++ link.toText)
    · rw [if_neg (by omega), grownBefore_eq_zero fun later member => by
        have := bounds_of_mem_occurrencesFrom member
        omega]
      exact getElem?_settled_of_lt within (fun missing => by have := keptFirst missing; omega) _ _
    · -- The rest of both texts begins where the link ends, which has moved as the link has grown.
      obtain ⟨rest, rfl⟩ := Nat.exists_eq_add_of_le (Nat.le_of_not_lt within)
      have moved : offset + utf8Length gap + utf8Length link.toText + rest =
          offset + (utf8Length (gap ++ link.toText) + rest) := by omega
      have same := ih rest (moved ▸ keptRest)
      have grown : utf8Length (gap ++ link.settled (link.verdict isLocal)) =
          utf8Length (gap ++ link.toText) +
            if link.verdict isLocal = .missing then link.growth else 0 := by
        rw [Text.utf8Length_append, Link.utf8Length_settled]
        omega
      have before : offset + utf8Length gap + utf8Length link.toText ≤
          offset + (utf8Length (gap ++ link.toText) + rest) := by omega
      rw [Text.getElem?_bytes_add, ← same,
        ← Text.getElem?_bytes_add (gap ++ link.settled (link.verdict isLocal)) _ (rest + _), grown]
      congr 1
      simp only [before, true_and, moved]
      omega

end Document

/-! ### The copy -/

/-- A text is being copied: from which offset on what still has to be copied begins, and what has
been put out. -/
structure Copying where
  cursor : Nat
  output : String

namespace Copying

def start : Copying := ⟨0, ""⟩

/-- What stands up to a missing link is copied, and the link is led to Wikidata. Any other link is
left for later. -/
def pass (isLocal : List Char → Bool) (source : String) (copying : Copying)
    (occurrence : Occurrence) : Option Copying :=
  if occurrence.link.verdict isLocal = .missing then do
    let between ← Text.slice? source copying.cursor occurrence.start
    return {
      cursor := occurrence.stop
      output := copying.output ++ between ++ String.ofList (occurrence.link.settled .missing) }
  else some copying

def passAll (isLocal : List Char → Bool) (source : String) (copying : Copying)
    (occurrences : List Occurrence) : Option Copying :=
  occurrences.foldlM (pass isLocal source) copying

def finish (source : String) (copying : Copying) : Option String := do
  let rest ← Text.slice? source copying.cursor source.utf8ByteSize
  return copying.output ++ rest

/-- What has been put out lacks only an end of the text passed, in which no link is to be led. -/
def Trails (copying : Copying) (passed settled : List Char) : Prop :=
  ∃ copied pending, passed = copied ++ pending ∧ copying.cursor = utf8Length copied ∧
    String.ofList settled = copying.output ++ String.ofList pending

variable {isLocal : List Char → Bool} {copying : Copying} {text passed settled gap back : List Char}

theorem trails_start : start.Trails [] [] :=
  ⟨[], [], rfl, rfl, rfl⟩

theorem Trails.slice (trails : copying.Trails passed settled)
    (same : text = passed ++ gap ++ back) :
    copying.cursor ≤ utf8Length (passed ++ gap) ∧
      ∃ between, Text.slice? (String.ofList text) copying.cursor (utf8Length (passed ++ gap)) =
          some between ∧ copying.output ++ between = String.ofList (settled ++ gap) := by
  obtain ⟨copied, pending, rfl, cursor, output⟩ := trails
  rw [same, cursor, List.append_assoc copied]
  refine ⟨by simp, _, Text.slice?_append copied (pending ++ gap) back, ?_⟩
  rw [String.ofList_append, ← String.append_assoc, ← output, String.ofList_append]

theorem Trails.pass (trails : copying.Trails passed settled) {link : Link}
    (same : text = passed ++ gap ++ link.toText ++ back) :
    ∃ next, copying.pass isLocal (String.ofList text)
        ⟨link, utf8Length (passed ++ gap), utf8Length (passed ++ gap ++ link.toText)⟩ = some next ∧
      next.Trails (passed ++ gap ++ link.toText)
        (settled ++ gap ++ link.settled (link.verdict isLocal)) := by
  by_cases missing : link.verdict isLocal = .missing
  · -- What was passed is put out in front of the link, and nothing is pending any more.
    obtain ⟨-, between, found, output⟩ := trails.slice (same.trans (List.append_assoc _ _ _))
    refine ⟨⟨_, copying.output ++ between ++ String.ofList (link.settled .missing)⟩, ?_,
      _, [], (List.append_nil _).symm, rfl, ?_⟩
    · rw [Copying.pass, if_pos missing, found]
      rfl
    · rw [missing, String.ofList_append, output, String.ofList_nil, String.append_empty]
  · -- The cursor stays, and the link with its gap is pending too.
    obtain ⟨copied, pending, rfl, cursor, output⟩ := trails
    refine ⟨copying, if_neg missing, copied, pending ++ gap ++ link.toText, by simp, cursor, ?_⟩
    simp [link.settled_of_ne_missing missing, output, String.append_assoc]

theorem Trails.passAll (trails : copying.Trails passed settled) (isLocal : List Char → Bool)
    {linked : List (List Char × Link)}
    (same : text = passed ++ Document.linkedText linked ++ back) :
    ∃ next, copying.passAll isLocal (String.ofList text)
        (Document.occurrencesFrom (utf8Length passed) linked) = some next ∧
      next.Trails (passed ++ Document.linkedText linked)
        (settled ++ Document.settledLinks isLocal linked) := by
  induction linked generalizing copying passed settled with
  | nil =>
    refine ⟨copying, rfl, ?_⟩
    simpa [Document.linkedText, Document.settledLinks] using trails
  | cons part linked ih =>
    obtain ⟨gap, link⟩ := part
    have here : text = passed ++ gap ++ link.toText ++ (Document.linkedText linked ++ back) := by
      simp [same, Document.linkedText_cons]
    obtain ⟨next, one, trails⟩ := trails.pass here
    obtain ⟨last, others, trails⟩ := ih trails (by simp [same, Document.linkedText_cons])
    refine ⟨last, ?_, ?_⟩
    · simp only [Text.utf8Length_append] at one others
      rw [Copying.passAll, Document.occurrencesFrom, List.foldlM_cons, one]
      exact others
    · simpa [Document.linkedText_cons, Document.settledLinks_cons] using trails

end Copying

namespace Repair

open Document

/-- The offsets of the links that are found cut the text between characters, each time after the
link before, and a copy of the text made by them never fails. It copies all that does not stand in a
link led to Wikidata, and is the text in which the placeholders are then spelled out. -/
theorem copied_by_offsets (isLocal : List Char → Bool) (text : List Char) :
    let source := String.ofList text
    let occurrences := (Document.ofText text).occurrences
    let settled := settledText isLocal text
    (∀ occurrence ∈ occurrences,
        Text.slice? source occurrence.start occurrence.stop =
          some (String.ofList occurrence.link.toText) ∧
        occurrence.stop = occurrence.start +
          (utf8Length occurrence.link.label + utf8Length occurrence.link.stem + 7)) ∧
      occurrences.Pairwise (fun earlier later => earlier.stop ≤ later.start) ∧
      (∀ before occurrence after, occurrences = before ++ occurrence :: after →
        ∃ copying, Copying.start.passAll isLocal source before = some copying ∧
          copying.cursor ≤ occurrence.start ∧
          (Text.slice? source copying.cursor occurrence.start).isSome) ∧
      (∃ copying, Copying.start.passAll isLocal source occurrences = some copying ∧
        copying.finish source = some (String.ofList settled)) ∧
      (ofText isLocal text).text = Substitution.placeholderTarget.apply
        (Substitution.placeholderLink.apply settled) ∧
      ∀ place, (∀ occurrence ∈ occurrences, occurrence.link.verdict isLocal = .missing →
          ¬ (occurrence.start ≤ place ∧ place < occurrence.stop)) →
        (Text.bytes settled)[place + grownBefore isLocal place occurrences]? =
          (Text.bytes text)[place]? := by
  intro source occurrences settled
  have same : text = linkedText (Document.ofText text).linked ++ (Document.ofText text).remainder :=
    (toText_ofText text).symm
  have settled_eq : settled = settledLinks isLocal (Document.ofText text).linked ++
      (Document.ofText text).remainder := settle_eq_settledLinks isLocal _
  refine ⟨?_, pairwise_occurrencesFrom 0 _, ?_, ?_, text_eq_apply isLocal text, ?_⟩
  · intro occurrence member
    obtain ⟨before, after, split⟩ := List.append_of_mem member
    obtain ⟨front, gap, back, parts, -, start, stop⟩ := exists_parts_of_occurrences split
    have cut := Text.slice?_append (linkedText front ++ gap) occurrence.link.toText back
    rw [← parts, ← start, ← stop] at cut
    refine ⟨cut, ?_⟩
    rw [← Link.utf8Length_toText, stop, start, ← Text.utf8Length_append]
  · intro before occurrence after split
    obtain ⟨front, gap, back, parts, rfl, start, -⟩ := exists_parts_of_occurrences split
    rw [List.append_assoc] at parts
    have passed : text = [] ++ linkedText front ++ (gap ++ (occurrence.link.toText ++ back)) := by
      rw [parts, List.nil_append, List.append_assoc]
    obtain ⟨copying, some, trails⟩ := Copying.trails_start.passAll isLocal passed
    obtain ⟨before, between, found, -⟩ := trails.slice parts
    refine ⟨copying, some, start ▸ before, ?_⟩
    rw [start]
    exact Option.isSome_iff_exists.2 ⟨between, found⟩
  · obtain ⟨copying, all, trails⟩ := Copying.trails_start.passAll isLocal same
    obtain ⟨-, rest, found, output⟩ := trails.slice (same.trans (List.append_nil _).symm)
    refine ⟨copying, all, ?_⟩
    rw [List.nil_append, ← same, ← Text.utf8ByteSize_ofList] at found
    rw [Copying.finish, found, settled_eq]
    exact congrArg some output
  · intro place kept
    rw [← Nat.zero_add place] at kept
    have moved := getElem?_settledLinks (Document.ofText text).remainder place kept
    rwa [Nat.zero_add, ← same, ← settled_eq] at moved

theorem copied_by_offsets_past_external :
    let isLocal := fun _ => false
    let text := "é [ü](Q1.md) [ö](ftp://𝄞.md) — [b](P2.md) ß".toList
    let occurrences := (Document.ofText text).occurrences
    let last : Occurrence := ⟨⟨['b'], ['P', '2']⟩, 39, 49⟩
    occurrences = occurrences.take 2 ++ last :: [] ∧
      (∃ copying, Copying.start.passAll isLocal (String.ofList text) (occurrences.take 2) =
          some copying ∧ copying.cursor ≤ last.start ∧
        (Text.slice? (String.ofList text) copying.cursor last.start).isSome) ∧
      (∀ occurrence ∈ occurrences, occurrence.link.verdict isLocal = .missing →
        ¬ (occurrence.start ≤ 50 ∧ 50 < occurrence.stop)) ∧
      (Text.bytes (settledText isLocal text))[50 + grownBefore isLocal 50 occurrences]? =
        (Text.bytes text)[50]? := by
  intro isLocal text occurrences last
  have split : occurrences = occurrences.take 2 ++ last :: [] := by decide +kernel
  have kept : ∀ occurrence ∈ occurrences, occurrence.link.verdict isLocal = .missing →
      ¬ (occurrence.start ≤ 50 ∧ 50 < occurrence.stop) := by decide +kernel
  obtain ⟨-, -, reached, -, -, moved⟩ := copied_by_offsets isLocal text
  exact ⟨split, reached _ _ _ split, kept, moved 50 kept⟩

end Repair

end BrokenLinks
