import BrokenLinks.Bytes
import BrokenLinks.Proofs.Text.Replacement

/-! How long a text is in bytes, and how its length changes when a pattern is replaced. -/

set_option autoImplicit false

namespace BrokenLinks.Text

variable {pattern substitute text : List Char}

@[simp] theorem utf8Length_nil : utf8Length [] = 0 := rfl

@[simp] theorem utf8Length_cons (c : Char) (text : List Char) :
    utf8Length (c :: text) = c.utf8Size + utf8Length text := rfl

@[simp] theorem utf8Length_append (front back : List Char) :
    utf8Length (front ++ back) = utf8Length front + utf8Length back := by
  induction front with
  | nil => simp
  | cons c front ih => simp [ih, Nat.add_assoc]

theorem utf8Length_eq_zero_iff : utf8Length text = 0 ↔ text = [] := by
  cases text with
  | nil => simp
  | cons c text =>
    have := c.utf8Size_pos
    simp only [utf8Length_cons, reduceCtorEq, iff_false]
    omega

theorem prefix_of_utf8Length_le {front back front' back' : List Char}
    (same : front ++ back = front' ++ back') (shorter : utf8Length front ≤ utf8Length front') :
    front <+: front' := by
  rcases List.append_eq_append_iff.1 same with ⟨more, rfl, -⟩ | ⟨more, rfl, -⟩
  · exact List.prefix_append front more
  · have empty : more = [] := utf8Length_eq_zero_iff.1 (by
      rw [utf8Length_append] at shorter
      omega)
    rw [empty, List.append_nil]

theorem eq_or_utf8Length_lt_of_prefix {front front' : List Char} (starts : front <+: front') :
    front = front' ∨ utf8Length front < utf8Length front' := by
  obtain ⟨more, rfl⟩ := starts
  by_cases empty : more = []
  · exact .inl (by simp [empty])
  · have := mt utf8Length_eq_zero_iff.1 empty
    rw [utf8Length_append]
    omega

theorem append_inj_of_utf8Length {front back front' back' : List Char}
    (same : front ++ back = front' ++ back') (long : utf8Length front = utf8Length front') :
    front = front' ∧ back = back' := by
  obtain rfl | shorter := eq_or_utf8Length_lt_of_prefix (prefix_of_utf8Length_le same long.le)
  · exact ⟨rfl, List.append_cancel_left same⟩
  · omega

theorem eq_or_shorter_of_first {front back front' back' : List Char} (ends : EndsOnce pattern)
    (first : ¬ pattern <:+: front) (same : front ++ pattern ++ back = front' ++ pattern ++ back') :
    utf8Length front < utf8Length front' ∨ front = front' ∧ back = back' := by
  obtain rfl | shorter := eq_or_utf8Length_lt_of_prefix (prefix_of_first ends first same)
  · exact .inr ⟨rfl, List.append_cancel_left same⟩
  · exact .inl shorter

theorem size_utf8Encode (text : List Char) : text.utf8Encode.size = utf8Length text := by
  induction text with
  | nil => rfl
  | cons c text ih =>
    rw [List.utf8Encode_cons, List.utf8Encode_singleton, ByteArray.size_append, ih, utf8Length_cons]
    simp

theorem ofString_append (first second : String) :
    Bytes.ofString (first ++ second) = Bytes.ofString first ++ Bytes.ofString second := by
  simp [Bytes.ofString]

theorem length_ofString (text : String) :
    (Bytes.ofString text).length = utf8Length text.toList := by
  rw [← size_utf8Encode, String.utf8Encode_toList, Bytes.ofString, Array.length_toList]
  rfl

/-- `occurrences`, with the number of characters that still belong to the one met last. -/
def occurrencesFrom (pattern : List Char) : Nat → List Char → Nat
  | _, [] => 0
  | within + 1, _ :: text => occurrencesFrom pattern within text
  | 0, c :: text =>
    if pattern.isPrefixOf (c :: text) then
      occurrencesFrom pattern (pattern.length - 1) text + 1
    else occurrencesFrom pattern 0 text

/-- Occurrences of the pattern that a reader meets from left to right. -/
def occurrences (pattern text : List Char) : Nat :=
  occurrencesFrom pattern 0 text

theorem occurrencesFrom_eq_drop (pattern : List Char) (within : Nat) (text : List Char) :
    occurrencesFrom pattern within text = occurrences pattern (text.drop within) := by
  induction text generalizing within with
  | nil => cases within <;> rfl
  | cons c text ih =>
    cases within with
    | zero => rfl
    | succ within => exact ih within

theorem occurrences_pattern_append (empty : pattern ≠ []) (text : List Char) :
    occurrences pattern (pattern ++ text) = occurrences pattern text + 1 := by
  cases pattern with
  | nil => contradiction
  | cons c pattern =>
    rw [occurrences, List.cons_append, occurrencesFrom, if_pos (by simp), occurrencesFrom_eq_drop]
    simp

theorem occurrences_cons_of_absent {c : Char} (absent : ¬ pattern <+: c :: text) :
    occurrences pattern (c :: text) = occurrences pattern text := by
  rw [occurrences, occurrencesFrom, if_neg (mt List.isPrefixOf_iff_prefix.1 absent), occurrences]

theorem occurrences_eq_zero_iff (empty : pattern ≠ []) :
    occurrences pattern text = 0 ↔ ¬ pattern <:+: text := by
  induction text using replaceAll_induction empty with
  | nil => simp [occurrences, occurrencesFrom, empty]
  | found text ih =>
    have occurs : pattern <:+: pattern ++ text := (List.prefix_append pattern text).isInfix
    simp [occurrences_pattern_append empty, occurs]
  | other c text absent ih =>
    rw [occurrences_cons_of_absent absent, ih, List.infix_cons_iff, not_or,
      and_iff_right absent]

theorem occurrences_append {front back : List Char} (empty : pattern ≠ [])
    (parted : Parted pattern front back) :
    occurrences pattern (front ++ back) = occurrences pattern front + occurrences pattern back := by
  induction front using replaceAll_induction empty with
  | nil => exact (Nat.zero_add _).symm
  | found front ih =>
    rw [List.append_assoc, occurrences_pattern_append empty, occurrences_pattern_append empty,
      ih parted.of_append]
    omega
  | other c front absent ih =>
    have absent' : ¬ pattern <+: c :: (front ++ back) :=
      mt (parted.prefix_append_iff (by simp)).1 absent
    rw [List.cons_append, occurrences_cons_of_absent absent, occurrences_cons_of_absent absent',
      ih parted.of_cons]

/-- A text that a pattern neither runs into nor out of. -/
structure Walled (pattern text : List Char) : Prop where
  before : ∀ front back, Parted pattern front (text ++ back)
  after : ∀ back, Parted pattern text back

theorem walled_of_ends {first last : Char} (opens : text.head? = some first)
    (closes : text.getLast? = some last) (starts : first ∉ pattern.tail)
    (ends : last ∉ pattern.dropLast) : Walled pattern text where
  before _ back := parted_of_head? (by simp [List.head?_append, opens]) starts
  after _ := parted_of_getLast? closes ends

theorem Walled.occurrences_append (walled : Walled pattern text) (empty : pattern ≠ [])
    (front back : List Char) :
    occurrences pattern (front ++ (text ++ back)) =
      occurrences pattern front + (occurrences pattern text + occurrences pattern back) := by
  rw [Text.occurrences_append empty (walled.before front back),
    Text.occurrences_append empty (walled.after back)]

theorem first_induction {motive : List Char → Prop} (ends : EndsOnce pattern)
    (absent : ∀ text, ¬ pattern <:+: text → motive text)
    (found : ∀ front text, ¬ pattern <:+: front → motive text → motive (front ++ pattern ++ text))
    (text : List Char) : motive text := by
  induction h : text.length using Nat.strong_induction_on generalizing text with
  | h length ih =>
    cases cut : cut? pattern text with
    | none => exact absent text (cut?_eq_none_iff.1 cut)
    | some parts =>
      obtain ⟨front, rest⟩ := parts
      obtain ⟨rfl, first⟩ := (cut?_eq_some_iff ends).1 cut
      have := List.length_pos_iff.2 ends.ne_nil
      have shorter : rest.length < length := by
        simp only [List.length_append] at h
        omega
      exact found front rest first (ih rest.length shorter rest rfl)

/-- What another pattern gains or loses when one is replaced, if it can only lie inside or
outside. -/
theorem occurrences_replaceAll {counted : List Char} (some : counted ≠ []) (ends : EndsOnce pattern)
    (outside : Walled counted pattern) (inside : Walled counted substitute) (text : List Char) :
    occurrences counted (replaceAll pattern substitute text) +
        occurrences pattern text * occurrences counted pattern =
      occurrences counted text + occurrences pattern text * occurrences counted substitute := by
  induction text using first_induction ends with
  | absent text absent =>
    rw [replaceAll_eq_self absent, (occurrences_eq_zero_iff ends.ne_nil).2 absent, Nat.zero_mul,
      Nat.zero_mul]
  | found front text first ih =>
    rw [List.append_assoc, replaceAll_append ends.ne_nil ends.parted_before,
      replaceAll_pattern_append ends.ne_nil, replaceAll_eq_self first,
      occurrences_append ends.ne_nil ends.parted_before,
      occurrences_pattern_append ends.ne_nil, (occurrences_eq_zero_iff ends.ne_nil).2 first,
      outside.occurrences_append some, inside.occurrences_append some, Nat.zero_add, Nat.add_mul,
      Nat.add_mul]
    omega

theorem utf8Length_replaceAll (empty : pattern ≠ []) (text : List Char) :
    utf8Length (replaceAll pattern substitute text) +
        occurrences pattern text * utf8Length pattern =
      utf8Length text + occurrences pattern text * utf8Length substitute := by
  induction text using replaceAll_induction empty with
  | nil => simp [replaceAll_nil, occurrences, occurrencesFrom]
  | found text ih =>
    rw [replaceAll_pattern_append empty, occurrences_pattern_append empty, utf8Length_append,
      utf8Length_append, Nat.add_mul, Nat.add_mul]
    omega
  | other c text absent ih =>
    rw [replaceAll_cons_of_absent absent, occurrences_cons_of_absent absent, utf8Length_cons,
      utf8Length_cons]
    omega

end BrokenLinks.Text
