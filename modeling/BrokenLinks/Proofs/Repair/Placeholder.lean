import BrokenLinks.Proofs.Text.Replacement
import BrokenLinks.Repair

/-! The two spellings of the placeholder, replaced one after the other.

Neither substitution makes or breaks an occurrence of the other's pattern, so both together are
one pass over the text. No placeholder survives it. -/

set_option autoImplicit false

namespace BrokenLinks.Substitution

variable {text : List Char}

def placeholders (text : List Char) : List Char :=
  placeholderTarget.apply (placeholderLink.apply text)

theorem placeholderLink_ne_nil : placeholderLink.pattern ≠ [] := by decide

theorem placeholderTarget_ne_nil : placeholderTarget.pattern ≠ [] := by decide

theorem placeholders_eq (text : List Char) :
    placeholders text = Text.replaceAll placeholderTarget.pattern placeholderTarget.substitute
      (Text.replaceAll placeholderLink.pattern placeholderLink.substitute text) := rfl

theorem placeholders_link_append (text : List Char) :
    placeholders (placeholderLink.pattern ++ text) =
      placeholderLink.substitute ++ placeholders text := by
  have parted (back : List Char) :
      Text.Parted placeholderTarget.pattern placeholderLink.substitute back :=
    Text.parted_of_getLast? (show _ = some ')' by decide) (by decide)
  have absent : ¬ placeholderTarget.pattern <:+: placeholderLink.substitute :=
    fun occurs => absurd (occurs.subset (a := '!') (by decide)) (by decide)
  simp only [placeholders_eq]
  rw [Text.replaceAll_pattern_append placeholderLink_ne_nil,
    Text.replaceAll_append placeholderTarget_ne_nil (parted _), Text.replaceAll_eq_self absent]

theorem placeholders_target_append (text : List Char) :
    placeholders (placeholderTarget.pattern ++ text) =
      placeholderTarget.substitute ++ placeholders text := by
  have parted : Text.Parted placeholderLink.pattern placeholderTarget.pattern text :=
    Text.parted_of_getLast? (show _ = some ')' by decide) (by decide)
  have absent : ¬ placeholderLink.pattern <:+: placeholderTarget.pattern :=
    fun occurs => absurd (occurs.subset (a := '[') (by decide)) (by decide)
  simp only [placeholders_eq]
  rw [Text.replaceAll_append placeholderLink_ne_nil parted, Text.replaceAll_eq_self absent,
    Text.replaceAll_pattern_append placeholderTarget_ne_nil]

theorem placeholders_cons {c : Char} (noLink : ¬ placeholderLink.pattern <+: c :: text)
    (noTarget : ¬ placeholderTarget.pattern <+: c :: text) :
    placeholders (c :: text) = c :: placeholders text := by
  have clear : Text.Clear placeholderTarget.pattern.tail placeholderLink.substitute := by decide
  -- The first substitution makes no target for the second to find at this character.
  have noTarget' :=
    mt (Text.prefix_cons_of_prefix_cons_replaceAll placeholderLink_ne_nil clear) noTarget
  simp only [placeholders_eq]
  rw [Text.replaceAll_cons_of_absent noLink, Text.replaceAll_cons_of_absent noTarget']

/-- The two substitutions stop at the same places as one search for either pattern. -/
theorem placeholders_induction {motive : List Char → Prop} (nil : motive [])
    (link : ∀ text, motive text → motive (placeholderLink.pattern ++ text))
    (target : ∀ text, motive text → motive (placeholderTarget.pattern ++ text))
    (other : ∀ c text, ¬ placeholderLink.pattern <+: c :: text →
      ¬ placeholderTarget.pattern <+: c :: text → motive text → motive (c :: text))
    (text : List Char) : motive text := by
  refine Text.search_induction [placeholderLink.pattern, placeholderTarget.pattern] (by decide)
    nil ?_ ?_ text
  · simpa using ⟨link, target⟩
  · exact fun c text absent => other c text (absent _ (.head _)) (absent _ (.tail _ (.head _)))

theorem placeholders_append {front back : List Char}
    (partedLink : Text.Parted placeholderLink.pattern front back)
    (partedTarget : Text.Parted placeholderTarget.pattern front back) :
    placeholders (front ++ back) = placeholders front ++ placeholders back := by
  induction front using placeholders_induction with
  | nil => rfl
  | link front ih =>
    rw [List.append_assoc, placeholders_link_append, placeholders_link_append,
      ih partedLink.of_append partedTarget.of_append, List.append_assoc]
  | target front ih =>
    rw [List.append_assoc, placeholders_target_append, placeholders_target_append,
      ih partedLink.of_append partedTarget.of_append, List.append_assoc]
  | other c front noLink noTarget ih =>
    have noLink' : ¬ placeholderLink.pattern <+: c :: (front ++ back) :=
      mt (partedLink.prefix_append_iff (by simp)).1 noLink
    have noTarget' : ¬ placeholderTarget.pattern <+: c :: (front ++ back) :=
      mt (partedTarget.prefix_append_iff (by simp)).1 noTarget
    rw [placeholders_cons noLink noTarget, List.cons_append, List.cons_append,
      placeholders_cons noLink' noTarget', ih partedLink.of_cons partedTarget.of_cons]

theorem placeholders_eq_self (noLink : ¬ placeholderLink.pattern <:+: text)
    (noTarget : ¬ placeholderTarget.pattern <:+: text) : placeholders text = text := by
  rw [placeholders_eq, Text.replaceAll_eq_self noLink, Text.replaceAll_eq_self noTarget]

/-- The exclamation mark tells a placeholder from what takes its place, and the parenthesis at
the end keeps apart what follows. -/
theorem infix_of_infix_apply {substitution : Substitution} {part : List Char}
    (empty : substitution.pattern ≠ []) (marked : '!' ∈ part)
    (unmarked : '!' ∉ substitution.substitute) (ends : ')' ∉ part.dropLast)
    (closed : substitution.substitute.getLast? = some ')')
    (clear : Text.Clear part.tail substitution.substitute)
    (occurs : part <:+: substitution.apply text) :
    part <:+: text ∧ part ≠ substitution.pattern := by
  refine Text.infix_of_infix_replaceAll empty (List.ne_nil_of_mem marked) clear ?_ ?_ occurs
  · exact fun inside => unmarked (inside.subset marked)
  · intro back
    exact Text.parted_of_getLast? closed ends

theorem not_infix_placeholders (text : List Char) :
    ¬ placeholderLink.pattern <:+: placeholders text ∧
      ¬ placeholderTarget.pattern <:+: placeholders text := by
  have noLink : ¬ placeholderLink.pattern <:+: placeholderLink.apply text := fun occurs =>
    (infix_of_infix_apply (by decide) (by decide) (by decide) (by decide) (by decide)
      (by decide) occurs).2 rfl
  -- What the second substitution leaves was there before it, and the first has left no link.
  refine ⟨fun occurs => noLink ?_, fun occurs => ?_⟩
  · exact (infix_of_infix_apply (by decide) (by decide) (by decide) (by decide) (by decide)
      (by decide) occurs).1
  · exact (infix_of_infix_apply (by decide) (by decide) (by decide) (by decide) (by decide)
      (by decide) occurs).2 rfl

theorem placeholders_eq_self_iff : placeholders text = text ↔
    ¬ placeholderLink.pattern <:+: text ∧ ¬ placeholderTarget.pattern <:+: text := by
  constructor
  · intro same
    have absent := not_infix_placeholders text
    rwa [same] at absent
  · exact fun absent => placeholders_eq_self absent.1 absent.2

end BrokenLinks.Substitution
