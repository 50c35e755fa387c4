/-! Literal search in text, left to right, without regard for what the pattern means. -/

set_option autoImplicit false

namespace BrokenLinks.Text

def utf8Length (text : List Char) : Nat :=
  text.foldr (fun c length => c.utf8Size + length) 0

/-- `cut?` with the characters already passed, last one first. -/
def cutFrom (pattern passed : List Char) : List Char → Option (List Char × List Char)
  | [] => if pattern.isEmpty then some (passed.reverse, []) else none
  | c :: text =>
    if pattern.isPrefixOf (c :: text) then
      some (passed.reverse, (c :: text).drop pattern.length)
    else cutFrom pattern (c :: passed) text

def cut? (pattern text : List Char) : Option (List Char × List Char) :=
  cutFrom pattern [] text

theorem cutFrom_eq_map (pattern passed text : List Char) :
    cutFrom pattern passed text =
      (cut? pattern text).map fun parts => (passed.reverse ++ parts.1, parts.2) := by
  induction text generalizing passed with
  | nil => by_cases h : pattern.isEmpty <;> simp [cut?, cutFrom, h]
  | cons c text ih =>
    by_cases h : pattern.isPrefixOf (c :: text)
    · simp [cut?, cutFrom, h]
    · simp [cut?, cutFrom, h, ih (c :: passed), ih [c], Function.comp_def]

theorem cut?_cons (pattern : List Char) (c : Char) (text : List Char) :
    cut? pattern (c :: text) =
      if pattern.isPrefixOf (c :: text) then some ([], (c :: text).drop pattern.length)
      else (cut? pattern text).map fun parts => (c :: parts.1, parts.2) := by
  by_cases h : pattern.isPrefixOf (c :: text)
  · simp [cut?, cutFrom, h]
  · simp [cut?, cutFrom, h, cutFrom_eq_map pattern [c]]

theorem eq_append_of_cut? {pattern text before after : List Char}
    (h : cut? pattern text = some (before, after)) : text = before ++ pattern ++ after := by
  induction text generalizing before after with
  | nil =>
    by_cases empty : pattern.isEmpty
    · simp_all [cut?, cutFrom]
    · simp [cut?, cutFrom, empty] at h
  | cons c text ih =>
    rw [cut?_cons] at h
    split at h
    case isTrue found =>
      obtain ⟨rest, same⟩ := List.isPrefixOf_iff_prefix.1 found
      simp only [Option.some.injEq, Prod.mk.injEq] at h
      rw [← h.1, ← h.2, ← same]
      simp
    case isFalse =>
      obtain ⟨⟨first, second⟩, found, same⟩ := Option.map_eq_some_iff.1 h
      simp only [Prod.mk.injEq] at same
      rw [← same.1, ← same.2, ih found]
      simp

def contains (pattern text : List Char) : Bool :=
  (cut? pattern text).isSome

/-- `replaceAll` with the output so far, last character first, and the number of characters
that still belong to the occurrence replaced last. -/
def replaceFrom (pattern substitute : List Char) :
    List Char → Nat → List Char → List Char
  | output, _, [] => output.reverse
  | output, within + 1, _ :: text => replaceFrom pattern substitute output within text
  | output, 0, c :: text =>
    if pattern.isPrefixOf (c :: text) then
      replaceFrom pattern substitute (substitute.reverse ++ output) (pattern.length - 1) text
    else replaceFrom pattern substitute (c :: output) 0 text

/-- Replaces the occurrences of the pattern that a reader meets from left to right, each
search going on after the end of the occurrence before it. -/
def replaceAll (pattern substitute text : List Char) : List Char :=
  replaceFrom pattern substitute [] 0 text

theorem replaceFrom_eq_append (pattern substitute output : List Char) (within : Nat)
    (text : List Char) :
    replaceFrom pattern substitute output within text =
      output.reverse ++ replaceFrom pattern substitute [] within text := by
  induction text generalizing output within with
  | nil => simp [replaceFrom]
  | cons c text ih =>
    cases within with
    | succ within => exact ih output within
    | zero =>
      by_cases h : pattern.isPrefixOf (c :: text)
      · simp only [replaceFrom, h, if_true]
        rw [ih, ih (substitute.reverse ++ [])]
        simp
      · simp only [replaceFrom, h, if_false, Bool.false_eq_true]
        rw [ih, ih [c]]
        simp

theorem replaceFrom_eq_drop (pattern substitute : List Char) (within : Nat) (text : List Char) :
    replaceFrom pattern substitute [] within text =
      replaceAll pattern substitute (text.drop within) := by
  induction text generalizing within with
  | nil => simp [replaceAll, replaceFrom]
  | cons c text ih =>
    cases within with
    | zero => rfl
    | succ within => exact ih within

theorem replaceAll_nil (pattern substitute : List Char) :
    replaceAll pattern substitute [] = [] := rfl

theorem replaceAll_cons (pattern substitute : List Char) (c : Char) (text : List Char) :
    replaceAll pattern substitute (c :: text) =
      if pattern.isPrefixOf (c :: text) then
        substitute ++ replaceAll pattern substitute (text.drop (pattern.length - 1))
      else c :: replaceAll pattern substitute text := by
  by_cases h : pattern.isPrefixOf (c :: text)
  · simp only [replaceAll, replaceFrom, h, if_true]
    rw [replaceFrom_eq_append, replaceFrom_eq_drop]
    simp [replaceAll]
  · simp only [replaceAll, replaceFrom, h, if_false, Bool.false_eq_true]
    rw [replaceFrom_eq_append]
    simp

end BrokenLinks.Text
