import BrokenLinks.Proofs.Document.Canonical
import BrokenLinks.Proofs.Text.Measure
import Mathlib.Data.Prod.Lex

/-! The links of a text, told by all the ways in which a part of it can be read as one.

Since label and stem are any text, readings overlap, and the delimiters of one can stand inside
another. A search takes the reading that starts first; of those that start there the one with the
shortest label, and of those the one with the shortest stem. -/

set_option autoImplicit false

namespace BrokenLinks

variable {text : List Char}

/-- A link that can be read in the text, with all that stands before and after it. -/
structure Reading (text : List Char) where
  before : List Char
  link : Link
  after : List Char
  whole : before ++ link.toText ++ after = text

namespace Reading

variable {reading other : Reading text}

def start (reading : Reading text) : Nat :=
  Text.utf8Length reading.before

def stop (reading : Reading text) : Nat :=
  reading.start + Text.utf8Length reading.link.toText

def occurrence (reading : Reading text) : Occurrence :=
  ⟨reading.link, reading.start, reading.stop⟩

/-- The start decides, then the length of the label, then that of the stem, all in bytes. -/
def rank (reading : Reading text) : ℕ ×ₗ ℕ ×ₗ ℕ :=
  toLex (reading.start,
    toLex (Text.utf8Length reading.link.label, Text.utf8Length reading.link.stem))

theorem parts (reading : Reading text) :
    text = reading.before ++ Link.opening ++ (reading.link.label ++ Link.middle ++
      (reading.link.stem ++ Link.closing ++ reading.after)) := by
  have whole := reading.whole
  simp only [Link.toText, List.append_assoc] at whole ⊢
  exact whole.symm

theorem eq_of_rank_eq (same : reading.rank = other.rank) : reading = other := by
  -- Nothing is left open once the start and the lengths are given.
  have whole := reading.parts.symm.trans other.parts
  obtain ⟨before, ⟨label, stem⟩, after, _⟩ := reading
  obtain ⟨before', ⟨label', stem'⟩, after', _⟩ := other
  simp only [rank, start, EmbeddingLike.apply_eq_iff_eq, Prod.mk.injEq] at same
  obtain ⟨sameStart, sameLabel, sameStem⟩ := same
  simp only [List.append_assoc] at whole
  obtain ⟨rfl, inLink⟩ := Text.append_inj_of_utf8Length whole sameStart
  obtain ⟨rfl, inTarget⟩ :=
    Text.append_inj_of_utf8Length (List.append_cancel_left inLink) sameLabel
  obtain ⟨rfl, beyond⟩ :=
    Text.append_inj_of_utf8Length (List.append_cancel_left inTarget) sameStem
  obtain rfl := List.append_cancel_left beyond
  rfl

/-- With no bracket between the offset and its start, and no delimiter before its time, a reading
ranks lowest of all from the offset on. -/
theorem rank_le {passed gap : List Char} (begins : reading.before = passed ++ gap)
    (bare : '[' ∉ gap) (canonical : reading.link.Canonical)
    (ahead : Text.utf8Length passed ≤ other.start) : reading.rank ≤ other.rank := by
  have whole := reading.parts.symm.trans other.parts
  obtain ⟨gap', begins'⟩ : passed <+: other.before := by
    rw [begins, List.append_assoc, List.append_assoc, List.append_assoc other.before] at whole
    exact Text.prefix_of_utf8Length_le whole ahead
  simp only [rank, start, begins, ← begins', Prod.Lex.toLex_le_toLex, Text.utf8Length_append]
  rw [begins, ← begins', List.append_assoc passed, List.append_assoc passed,
    List.append_assoc passed, List.append_assoc passed] at whole
  have inText := List.append_cancel_left whole
  -- Each delimiter of the reading stands where it first can, so the other has it there or later.
  obtain earlier | ⟨rfl, inLink⟩ := Text.eq_or_shorter_of_first Link.opening_endsOnce
    (mt Link.opening_infix_iff.1 bare) inText
  · exact .inl (Nat.add_lt_add_left earlier _)
  refine .inr ⟨rfl, ?_⟩
  obtain shorter | ⟨sameLabel, inTarget⟩ :=
    Text.eq_or_shorter_of_first Link.middle_endsOnce canonical.label inLink
  · exact .inl shorter
  refine .inr ⟨congrArg _ sameLabel, ?_⟩
  obtain shorter | ⟨sameStem, -⟩ :=
    Text.eq_or_shorter_of_first Link.closing_endsOnce canonical.stem inTarget
  · exact shorter.le
  · exact (congrArg _ sameStem).le

end Reading

/-- The occurrences are those of readings that rank lowest, the first from the offset on and each
other one from the end of the one before; the search ends where nothing is left to read. -/
inductive Search (text : List Char) : Nat → List Occurrence → Prop where
  | ended {offset : Nat} (unread : ∀ reading : Reading text, reading.start < offset) :
      Search text offset []
  | found {offset : Nat} {others : List Occurrence} (reading : Reading text)
      (ahead : offset ≤ reading.start)
      (least : ∀ other : Reading text, offset ≤ other.start → reading.rank ≤ other.rank)
      (rest : Search text reading.stop others) :
      Search text offset (reading.occurrence :: others)

theorem Search.unique {offset : Nat} {occurrences others : List Occurrence}
    (search : Search text offset occurrences) (search' : Search text offset others) :
    occurrences = others := by
  induction search generalizing others with
  | ended unread =>
    cases search' with
    | ended => rfl
    | found reading ahead => exact absurd (unread reading) (Nat.not_lt.2 ahead)
  | found reading ahead least rest ih =>
    cases search' with
    | ended unread => exact absurd (unread reading) (Nat.not_lt.2 ahead)
    | found reading' ahead' least' rest' =>
      obtain rfl : reading = reading' :=
        Reading.eq_of_rank_eq (le_antisymm (least reading' ahead') (least' reading ahead))
      rw [ih rest']

theorem search_ofText (rest : List Char) : ∀ passed : List Char, passed ++ rest = text →
    Search text (Text.utf8Length passed)
      (Document.occurrencesFrom (Text.utf8Length passed) (Document.ofText rest).linked) := by
  -- By induction on the cuts: what has been passed and the rest make up the text at each of them.
  fun_induction Document.ofText rest with
  | case1 rest none =>
    intro passed same
    refine .ended fun reading => Nat.lt_of_not_le fun ahead => ?_
    have whole : passed ++ rest = reading.before ++ (reading.link.toText ++ reading.after) := by
      rw [same, ← List.append_assoc, reading.whole]
    obtain ⟨gap, begins⟩ := Text.prefix_of_utf8Length_le whole ahead
    rw [← begins, List.append_assoc] at whole
    exact Link.next?_eq_none_iff.1 none reading.link
      ⟨gap, reading.after, by simpa using (List.append_cancel_left whole).symm⟩
  | case2 rest gap link after found others ih =>
    intro passed same
    obtain ⟨split, bare, canonical⟩ := Link.next?_eq_some_iff.1 found
    let reading : Reading text := ⟨passed ++ gap, link, after, by simp [← same, split]⟩
    have start : Text.utf8Length passed + Text.utf8Length gap = reading.start := by
      simp [reading, Reading.start]
    have stop : reading.stop = Text.utf8Length (passed ++ gap ++ link.toText) := by
      simp [reading, Reading.start, Reading.stop, Nat.add_assoc]
    have further := ih (passed ++ gap ++ link.toText) (by simp [← same, split])
    rw [← stop] at further
    simp only [Document.occurrencesFrom, start]
    exact .found reading (start ▸ Nat.le_add_right _ _)
      (fun other ahead => Reading.rank_le rfl bare canonical ahead) further

/-- The links of a text are its leftmost and shortest readings, and no others. -/
theorem Document.occurrences_ofText_eq_iff {occurrences : List Occurrence} :
    (ofText text).occurrences = occurrences ↔ Search text 0 occurrences := by
  have search : Search text 0 (ofText text).occurrences := search_ofText text [] rfl
  constructor
  · rintro rfl
    exact search
  · exact search.unique

end BrokenLinks
