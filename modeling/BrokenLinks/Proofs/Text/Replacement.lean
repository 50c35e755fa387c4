import BrokenLinks.Proofs.Text.Search
import Mathlib.Data.List.Infix

/-! Replacing a pattern from left to right.

Texts that the pattern parts are replaced one after the other. What occurs in the result and
cannot run into the substitute has occurred before, and was not the pattern. -/

set_option autoImplicit false

namespace BrokenLinks.Text

variable {pattern substitute text front back : List Char}

theorem replaceAll_pattern_append (empty : pattern ≠ []) (text : List Char) :
    replaceAll pattern substitute (pattern ++ text) =
      substitute ++ replaceAll pattern substitute text := by
  cases pattern with
  | nil => contradiction
  | cons c pattern => simp [replaceAll_cons]

theorem replaceAll_cons_of_absent {c : Char} (absent : ¬ pattern <+: c :: text) :
    replaceAll pattern substitute (c :: text) = c :: replaceAll pattern substitute text := by
  rw [replaceAll_cons, if_neg (mt List.isPrefixOf_iff_prefix.1 absent)]

theorem search_induction {motive : List Char → Prop} (patterns : List (List Char))
    (empty : [] ∉ patterns) (nil : motive [])
    (found : ∀ pattern ∈ patterns, ∀ text, motive text → motive (pattern ++ text))
    (other : ∀ c text, (∀ pattern ∈ patterns, ¬ pattern <+: c :: text) → motive text →
      motive (c :: text))
    (text : List Char) : motive text := by
  -- On the length of the text, since a pattern takes away more than one character.
  induction h : text.length using Nat.strong_induction_on generalizing text with
  | h length ih =>
    by_cases starts : ∃ pattern ∈ patterns, pattern <+: text
    · obtain ⟨pattern, known, rest, rfl⟩ := starts
      have some : pattern ≠ [] := fun same => empty (same ▸ known)
      have := List.length_pos_iff.2 some
      have shorter : rest.length < length := by
        simp only [List.length_append] at h
        omega
      exact found pattern known rest (ih rest.length shorter rest rfl)
    · cases text with
      | nil => exact nil
      | cons c text =>
        have absent : ∀ pattern ∈ patterns, ¬ pattern <+: c :: text :=
          fun pattern known atStart => starts ⟨pattern, known, atStart⟩
        exact other c text absent (ih text.length (by simp [← h]) text rfl)

theorem replaceAll_induction {motive : List Char → Prop} (empty : pattern ≠ [])
    (nil : motive [])
    (found : ∀ text, motive text → motive (pattern ++ text))
    (other : ∀ c text, ¬ pattern <+: c :: text → motive text → motive (c :: text))
    (text : List Char) : motive text := by
  refine search_induction [pattern] (by simp [empty.symm]) nil ?_ ?_ text
  · intro pattern' known
    exact List.mem_singleton.1 known ▸ found
  · exact fun c text absent => other c text (absent pattern (.head _))

theorem replaceAll_eq_self (absent : ¬ pattern <:+: text) :
    replaceAll pattern substitute text = text := by
  induction text with
  | nil => rfl
  | cons c text ih =>
    rw [List.infix_cons_iff, not_or] at absent
    rw [replaceAll_cons_of_absent absent.1, ih absent.2]

theorem Parted.of_append {more : List Char} (parted : Parted pattern (more ++ front) back) :
    Parted pattern front back :=
  fun start rest started ended same atEnd =>
    parted start rest started ended same (atEnd.trans (List.suffix_append more front))

theorem replaceAll_append (empty : pattern ≠ []) (parted : Parted pattern front back) :
    replaceAll pattern substitute (front ++ back) =
      replaceAll pattern substitute front ++ replaceAll pattern substitute back := by
  induction front using replaceAll_induction empty with
  | nil => rfl
  | found front ih =>
    rw [List.append_assoc, replaceAll_pattern_append empty, replaceAll_pattern_append empty,
      ih parted.of_append, List.append_assoc]
  | other c front absent ih =>
    have absent' : ¬ pattern <+: c :: (front ++ back) :=
      mt (parted.prefix_append_iff (by simp)).1 absent
    rw [List.cons_append, replaceAll_cons_of_absent absent,
      replaceAll_cons_of_absent absent', ih parted.of_cons, List.cons_append]

/-- A text that neither ends inside the substitute nor passes over it. -/
def Clear (text substitute : List Char) : Prop :=
  ∀ rest ∈ text.tails, rest ≠ [] → ¬ rest <+: substitute ∧ ¬ substitute <+: rest

instance : Decidable (Clear text substitute) :=
  inferInstanceAs (Decidable (∀ rest ∈ text.tails, rest ≠ [] → _))

theorem Clear.of_cons {c : Char} (clear : Clear (c :: text) substitute) :
    Clear text substitute :=
  fun rest member => clear rest (by simp [member])

theorem Clear.not_prefix_append (clear : Clear text substitute) (some : text ≠ []) :
    ¬ text <+: substitute ++ back := by
  intro starts
  obtain ⟨inside, beyond⟩ := clear text ((List.mem_tails _ _).2 List.suffix_rfl) some
  exact (List.prefix_or_prefix_of_prefix starts (List.prefix_append substitute back)).elim
    inside beyond

theorem prefix_of_prefix_replaceAll {start : List Char} (empty : pattern ≠ [])
    (clear : Clear start substitute) (starts : start <+: replaceAll pattern substitute text) :
    start <+: text := by
  induction text using replaceAll_induction empty generalizing start with
  | nil => exact starts
  | found text ih =>
    rw [replaceAll_pattern_append empty] at starts
    by_cases some : start = []
    · simp [some]
    · exact absurd starts (clear.not_prefix_append some)
  | other c text absent ih =>
    rw [replaceAll_cons_of_absent absent] at starts
    cases start with
    | nil => exact List.nil_prefix
    | cons c' start =>
      obtain ⟨rfl, follows⟩ := List.cons_prefix_cons.1 starts
      exact List.cons_prefix_cons.2 ⟨rfl, ih clear.of_cons follows⟩

theorem prefix_cons_of_prefix_cons_replaceAll {c : Char} {part : List Char}
    (empty : pattern ≠ []) (clear : Clear part.tail substitute)
    (starts : part <+: c :: replaceAll pattern substitute text) : part <+: c :: text := by
  cases part with
  | nil => exact List.nil_prefix
  | cons c' part =>
    obtain ⟨rfl, follows⟩ := List.cons_prefix_cons.1 starts
    exact List.cons_prefix_cons.2 ⟨rfl, prefix_of_prefix_replaceAll empty clear follows⟩

/-- What occurs after the replacement, and shares nothing with the substitute, stood there
before; the pattern itself did not. -/
theorem infix_of_infix_replaceAll {part : List Char} (empty : pattern ≠ []) (some : part ≠ [])
    (clear : Clear part.tail substitute) (outside : ¬ part <:+: substitute)
    (parted : ∀ back, Parted part substitute back)
    (occurs : part <:+: replaceAll pattern substitute text) :
    part <:+: text ∧ part ≠ pattern := by
  induction text using replaceAll_induction empty with
  | nil => exact absurd (List.infix_nil.1 occurs) some
  | found text ih =>
    rw [replaceAll_pattern_append empty, (parted _).infix_append_iff] at occurs
    obtain ⟨before, different⟩ := ih (occurs.resolve_left outside)
    exact ⟨before.trans (List.suffix_append pattern text).isInfix, different⟩
  | other c text absent ih =>
    rw [replaceAll_cons_of_absent absent, List.infix_cons_iff] at occurs
    rcases occurs with starts | occurs
    · have before := prefix_cons_of_prefix_cons_replaceAll empty clear starts
      exact ⟨before.isInfix, fun same => absent (same ▸ before)⟩
    · obtain ⟨before, different⟩ := ih occurs
      exact ⟨before.trans (List.suffix_cons c text).isInfix, different⟩

end BrokenLinks.Text
