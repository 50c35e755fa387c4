import BrokenLinks.Text

/-! Where a literal pattern occurs in a text that is put together from two parts.

A cut is the first occurrence: nothing of it lies before. An occurrence in two parts lies in one of
them unless the pattern itself can be parted at the seam, which one character of it often rules
out. -/

set_option autoImplicit false

namespace BrokenLinks.Text

variable {pattern text before after front back : List Char}

theorem cut?_eq_none_iff : cut? pattern text = none ↔ ¬ pattern <:+: text := by
  induction text with
  | nil => cases pattern <;> simp [cut?, cutFrom]
  | cons c text ih =>
    rw [cut?_cons, List.infix_cons_iff]
    by_cases found : pattern.isPrefixOf (c :: text)
    · simp [found, List.isPrefixOf_iff_prefix.1 found]
    · have absent : ¬ pattern <+: c :: text := mt List.isPrefixOf_iff_prefix.2 found
      simp [found, absent, ih]

theorem contains_iff : contains pattern text = true ↔ pattern <:+: text := by
  rw [contains, Option.isSome_iff_ne_none, ne_eq, cut?_eq_none_iff, Classical.not_not]

/-- No occurrence starts in the first part and ends in the second. -/
def Parted (pattern front back : List Char) : Prop :=
  ∀ start rest : List Char, start ≠ [] → rest ≠ [] → pattern = start ++ rest →
    start <:+ front → ¬ rest <+: back

theorem Parted.infix_append_iff (parted : Parted pattern front back) :
    pattern <:+: front ++ back ↔ pattern <:+: front ∨ pattern <:+: back := by
  rw [List.infix_append_iff_ne_nil]
  constructor
  · rintro (inFront | inBack | ⟨start, rest, started, ended, same, atEnd, atStart⟩)
    · exact Or.inl inFront
    · exact Or.inr inBack
    · exact absurd atStart (parted start rest started ended same atEnd)
  · rintro (inFront | inBack)
    · exact Or.inl inFront
    · exact Or.inr (Or.inl inBack)

theorem parted_of_getLast? {last : Char} (closes : front.getLast? = some last)
    (ends : last ∉ pattern.dropLast) : Parted pattern front back := by
  obtain ⟨others, rfl⟩ := List.getLast?_eq_some_iff.1 closes
  -- The first part would end with a start of the pattern, and so with a character inside it.
  rintro start rest started ended rfl atEnd _
  obtain ⟨kept, same⟩ := (List.suffix_concat_iff.1 atEnd).resolve_left started
  rw [List.dropLast_append_of_ne_nil ended, same.1] at ends
  simp at ends

theorem parted_of_last {last : Char} (ends : last ∉ pattern.dropLast) :
    Parted pattern (front ++ [last]) back :=
  parted_of_getLast? List.getLast?_concat ends

theorem parted_of_head? {first : Char} (opens : back.head? = some first)
    (starts : first ∉ pattern.tail) : Parted pattern front back := by
  rintro start rest started ended rfl - atStart
  obtain ⟨c, start, rfl⟩ := List.exists_cons_of_ne_nil started
  obtain ⟨c', rest, rfl⟩ := List.exists_cons_of_ne_nil ended
  -- The second part would start with what goes on with the pattern, its first character inside it.
  obtain ⟨more, rfl⟩ := atStart
  cases opens
  simp at starts

theorem parted_singleton (c : Char) : Parted [c] front back := by
  rintro start rest started ended same
  obtain ⟨first, start, rfl⟩ := List.exists_cons_of_ne_nil started
  obtain ⟨last, rest, rfl⟩ := List.exists_cons_of_ne_nil ended
  simp at same

theorem Parted.of_cons {c : Char} (parted : Parted pattern (c :: front) back) :
    Parted pattern front back :=
  fun start rest started ended same atEnd =>
    parted start rest started ended same (atEnd.trans (List.suffix_cons c front))

theorem Parted.prefix_append_iff (parted : Parted pattern front back) (inside : front ≠ []) :
    pattern <+: front ++ back ↔ pattern <+: front := by
  constructor
  · intro starts
    rcases List.prefix_or_prefix_of_prefix starts (List.prefix_append front back) with
      shorter | ⟨rest, rfl⟩
    · exact shorter
    · cases rest with
      | nil => simp
      | cons c rest =>
        exact absurd ((List.prefix_append_right_inj front).1 starts)
          (parted front (c :: rest) inside (by simp) rfl List.suffix_rfl)
  · exact fun starts => starts.trans (List.prefix_append front back)

theorem exists_append_of_not_mem {passed rest : List Char} {c : Char}
    (outside : c ∉ front) (same : passed ++ c :: rest = front ++ back) :
    ∃ more, passed = front ++ more ∧ more ++ c :: rest = back := by
  -- If less than the first part has been passed, the character lies in what is left of it.
  rcases List.append_eq_append_iff.1 same with ⟨more, rfl, ended⟩ | ⟨more, rfl, rfl⟩
  · cases more with
    | nil => exact ⟨[], by simp, ended⟩
    | cons c' more =>
      cases ended
      simp at outside
  · exact ⟨more, rfl, rfl⟩

theorem exists_append_of_not_mem_back {passed rest : List Char} {c : Char} (outside : c ∉ back)
    (same : passed ++ c :: rest = front ++ back) :
    ∃ more, front = passed ++ c :: more ∧ rest = more ++ back := by
  rcases List.append_eq_append_iff.1 same with ⟨more, rfl, ended⟩ | ⟨more, rfl, rfl⟩
  · cases more with
    | nil => simp [← show c :: rest = back from ended] at outside
    | cons c' more =>
      obtain ⟨rfl, rfl⟩ := List.cons.inj ended
      exact ⟨more, rfl, rfl⟩
  · simp at outside

theorem eq_of_append_cons_eq {passed passed' rest rest' : List Char} {c : Char}
    (first : c ∉ passed) (first' : c ∉ passed')
    (same : passed ++ c :: rest = passed' ++ c :: rest') : passed = passed' ∧ rest = rest' := by
  obtain ⟨more, rfl, follows⟩ := exists_append_of_not_mem first' same
  cases more with
  | nil => exact ⟨by simp, (List.cons.inj follows).2⟩
  | cons c' more =>
    obtain ⟨rfl, -⟩ := List.cons.inj follows
    simp at first

theorem cut?_append (parted : Parted pattern front back) (empty : pattern ≠ []) :
    cut? pattern (front ++ back) =
      match cut? pattern front with
      | some (before, after) => some (before, after ++ back)
      | none => (cut? pattern back).map fun parts => (front ++ parts.1, parts.2) := by
  induction front with
  | nil => simp [cut?, cutFrom, List.isEmpty_iff, empty]
  | cons c front ih =>
    have same := parted.prefix_append_iff (by simp)
    rw [List.cons_append, cut?_cons, cut?_cons, ih parted.of_cons]
    -- What follows the occurrence is dropped from both parts or from the first alone.
    by_cases found : pattern <+: c :: front
    · have found' : pattern <+: c :: (front ++ back) := same.2 found
      simp [found, found', ← List.drop_append_of_le_length found.length_le]
    · have absent : ¬ pattern <+: c :: (front ++ back) := mt same.1 found
      simp only [List.isPrefixOf_iff_prefix, found, absent, if_false]
      cases cut? pattern front <;> simp [Function.comp_def]

theorem cut?_append_cases (parted : Parted pattern front back) (empty : pattern ≠ [])
    (found : cut? pattern (front ++ back) = some (before, after)) :
    (∃ more, cut? pattern front = some (before, more) ∧ after = more ++ back) ∨
      ∃ before', cut? pattern back = some (before', after) := by
  rw [cut?_append parted empty] at found
  split at found
  next before' more inFront =>
    cases found
    exact .inl ⟨more, inFront, rfl⟩
  next =>
    obtain ⟨⟨before', after'⟩, inBack, same⟩ := Option.map_eq_some_iff.1 found
    cases same
    exact .inr ⟨before', inBack⟩

/-- The last character of the pattern stands nowhere else in it. -/
def EndsOnce (pattern : List Char) : Prop :=
  ∃ last, pattern.getLast? = some last ∧ last ∉ pattern.dropLast

theorem EndsOnce.ne_nil (ends : EndsOnce pattern) : pattern ≠ [] := by
  rintro rfl
  obtain ⟨_, none, _⟩ := ends
  contradiction

theorem EndsOnce.parted_before (ends : EndsOnce pattern) :
    Parted pattern front (pattern ++ back) := by
  rintro start rest started ended same - overlaps
  obtain ⟨last, atLast, once⟩ := ends
  have shorter : rest.length < pattern.length := by
    have := List.length_pos_iff.2 started
    simp only [same, List.length_append]
    omega
  -- What overlaps the next occurrence is a proper start of it, and yet ends like the pattern.
  obtain ⟨others, split⟩ : rest <+: pattern :=
    List.prefix_of_prefix_length_le overlaps (List.prefix_append pattern back) (by omega)
  have proper : others ≠ [] := by
    rintro rfl
    simp [← split] at shorter
  obtain ⟨body, last', rfl⟩ := List.eq_nil_or_concat rest |>.resolve_left ended
  have : last' = last := by simpa [same] using atLast
  rw [← split, List.dropLast_append_of_ne_nil proper, this] at once
  simp at once

theorem exists_cut?_of_append (empty : pattern ≠ []) (first rest : List Char) :
    ∃ before after, cut? pattern (first ++ pattern ++ rest) = some (before, after) ∧
      rest <:+ after := by
  -- The first occurrence is no later than any other.
  induction first with
  | nil =>
    cases pattern with
    | nil => contradiction
    | cons c pattern => exact ⟨[], rest, by simp [cut?_cons], List.suffix_rfl⟩
  | cons c first ih =>
    obtain ⟨before, after, found, inside⟩ := ih
    rw [List.cons_append, List.cons_append, cut?_cons]
    by_cases starts : pattern <+: c :: (first ++ pattern ++ rest)
    · refine ⟨[], _, if_pos (List.isPrefixOf_iff_prefix.2 starts), ?_⟩
      rw [← List.cons_append, ← List.cons_append,
        List.drop_append_of_le_length (by simp only [List.length_append]; omega)]
      exact List.suffix_append _ rest
    · refine ⟨c :: before, after, ?_, inside⟩
      rw [if_neg (mt List.isPrefixOf_iff_prefix.1 starts), found]
      rfl

theorem not_infix_of_cut? (empty : pattern ≠ []) (h : cut? pattern text = some (before, after)) :
    ¬ pattern <:+: before := by
  induction text generalizing before with
  | nil => simp [cut?, cutFrom, empty] at h
  | cons c text ih =>
    rw [cut?_cons] at h
    split at h
    case isTrue =>
      cases h
      simpa using empty
    case isFalse absent =>
      obtain ⟨⟨first, second⟩, found, same⟩ := Option.map_eq_some_iff.1 h
      cases same
      rw [List.infix_cons_iff, not_or]
      refine ⟨fun starts => absent (List.isPrefixOf_iff_prefix.2 ?_), ih found⟩
      rw [eq_append_of_cut? found, List.append_assoc, ← List.cons_append]
      exact starts.trans (List.prefix_append _ _)

/-- A cut is the one place before which the pattern does not occur. -/
theorem cut?_eq_some_iff (ends : EndsOnce pattern) :
    cut? pattern text = some (before, after) ↔
      text = before ++ pattern ++ after ∧ ¬ pattern <:+: before := by
  constructor
  · exact fun h => ⟨eq_append_of_cut? h, not_infix_of_cut? ends.ne_nil h⟩
  · rintro ⟨rfl, absent⟩
    rw [List.append_assoc, cut?_append ends.parted_before ends.ne_nil,
      cut?_eq_none_iff.2 absent]
    have atStart : cut? pattern (pattern ++ after) = some ([], after) := by
      cases pattern with
      | nil => exact absurd rfl ends.ne_nil
      | cons c rest => simp [cut?_cons]
    simp [atStart]

theorem prefix_of_first {before' after' : List Char} (ends : EndsOnce pattern)
    (first : ¬ pattern <:+: before)
    (same : before ++ pattern ++ after = before' ++ pattern ++ after') : before <+: before' := by
  obtain ⟨_, _, found, rest⟩ := exists_cut?_of_append ends.ne_nil before' after'
  rw [← same, (cut?_eq_some_iff ends).2 ⟨rfl, first⟩] at found
  cases found
  have shorter := rest.length_le
  have long := congrArg List.length same
  simp only [List.length_append] at long
  have starts : before <+: before ++ pattern ++ after := ⟨pattern ++ after, by simp⟩
  have starts' : before' <+: before ++ pattern ++ after := ⟨pattern ++ after', by simp [same]⟩
  exact List.prefix_of_prefix_length_le starts starts' (by omega)

end BrokenLinks.Text
