import BrokenLinks.Document
import BrokenLinks.Proofs.Text.Search

/-! The one way in which a text is cut at its links.

A document is canonical when each delimiter of each link is the first of its kind after the
delimiter before it, and no link can be read in the remainder. Cutting a text gives a canonical
document, and cutting the text of a canonical document gives the document back. -/

set_option autoImplicit false

namespace BrokenLinks

namespace Link

variable {text gap rest : List Char} {link : Link}

theorem opening_endsOnce : Text.EndsOnce opening := ⟨'[', rfl, by decide⟩

theorem middle_endsOnce : Text.EndsOnce middle := ⟨'(', rfl, by decide⟩

theorem closing_endsOnce : Text.EndsOnce closing := ⟨')', rfl, by decide⟩

theorem opening_infix_iff : opening <:+: text ↔ '[' ∈ text := by
  constructor
  · exact fun inside => inside.subset (by simp [opening])
  · intro member
    obtain ⟨before, after, rfl⟩ := List.append_of_mem member
    exact ⟨before, after, by simp [opening]⟩

theorem toText_eq (link : Link) :
    link.toText = opening ++ link.label ++ middle ++ link.fileName ++ [')'] := by
  simp [toText, fileName, closing]

theorem not_middle_infix_opening_append {label : List Char} (first : ¬ middle <:+: label) :
    ¬ middle <:+: opening ++ label := by
  rw [opening, List.singleton_append, List.infix_cons_iff, not_or]
  exact ⟨by simp [middle], first⟩

theorem not_closing_infix_append {front back : List Char} (outside : ')' ∉ back)
    (first : ¬ closing <:+: front) : ¬ closing <:+: front ++ back := by
  rintro ⟨before, after, same⟩
  have found : before ++ ['.', 'm', 'd'] ++ ')' :: after = front ++ back := by
    rw [← same]
    simp [closing]
  obtain ⟨more, rfl, -⟩ := Text.exists_append_of_not_mem_back outside found
  exact first ⟨before, more, by simp [closing]⟩

/-- Each delimiter inside a link is the first of its kind. -/
structure Canonical (link : Link) : Prop where
  label : ¬ middle <:+: link.label
  stem : ¬ closing <:+: link.stem

theorem next?_eq_some_iff :
    next? text = some (gap, link, rest) ↔
      text = gap ++ link.toText ++ rest ∧ '[' ∉ gap ∧ link.Canonical := by
  simp only [next?, Option.bind_eq_bind, Option.bind_eq_some_iff, Prod.exists, Option.pure_def,
    Option.some.injEq, Prod.mk.injEq, Text.cut?_eq_some_iff opening_endsOnce,
    Text.cut?_eq_some_iff middle_endsOnce, Text.cut?_eq_some_iff closing_endsOnce,
    opening_infix_iff]
  constructor
  · rintro ⟨_, _, ⟨rfl, bare⟩, label, _, ⟨rfl, first⟩, stem, _, ⟨rfl, last⟩, rfl, rfl, rfl⟩
    exact ⟨by simp [toText], bare, first, last⟩
  · rintro ⟨rfl, bare, first, last⟩
    refine ⟨gap, link.label ++ middle ++ (link.stem ++ closing ++ rest), ⟨?_, bare⟩,
      link.label, link.stem ++ closing ++ rest, ⟨rfl, first⟩, link.stem, rest, ⟨rfl, last⟩,
      rfl, rfl, rfl⟩
    simp [toText]

theorem next?_of_middle {label : List Char} (back : List Char) (bare : '[' ∉ gap)
    (first : ¬ middle <:+: label) :
    next? (gap ++ opening ++ label ++ middle ++ back) =
      (Text.cut? closing back).map fun parts => (gap, ⟨label, parts.1⟩, parts.2) := by
  have cutOpening : Text.cut? opening (gap ++ opening ++ (label ++ middle ++ back)) =
      some (gap, label ++ middle ++ back) :=
    (Text.cut?_eq_some_iff opening_endsOnce).2 ⟨rfl, mt opening_infix_iff.1 bare⟩
  have cutMiddle : Text.cut? middle (label ++ middle ++ back) = some (label, back) :=
    (Text.cut?_eq_some_iff middle_endsOnce).2 ⟨rfl, first⟩
  have assoc : gap ++ opening ++ label ++ middle ++ back =
      gap ++ opening ++ (label ++ middle ++ back) := by simp
  rw [assoc, next?, cutOpening]
  simp only [Option.bind_eq_bind, Option.bind_some, cutMiddle]
  cases Text.cut? closing back <;> rfl

theorem next?_bare_append (text : List Char) (bare : '[' ∉ gap) :
    next? (gap ++ text) = (next? text).map fun parts => (gap ++ parts.1, parts.2) := by
  -- What holds no bracket joins the gap.
  have parted : Text.Parted opening gap text := Text.parted_singleton '['
  have unopened : Text.cut? opening gap = none :=
    Text.cut?_eq_none_iff.2 (mt opening_infix_iff.1 bare)
  rw [next?, next?, Text.cut?_append parted opening_endsOnce.ne_nil, unopened]
  simp only [Option.bind_eq_bind, Option.bind_map, Option.map_bind, Function.comp_def]
  rfl

theorem next?_eq_none_iff : next? text = none ↔ ∀ link : Link, ¬ link.toText <:+: text := by
  constructor
  · rintro none link ⟨before, after, rfl⟩
    -- Each cut finds its delimiter no later than the link has it, so the next cut finds one too.
    obtain ⟨gap, afterOpening, cutOpening, tail⟩ := Text.exists_cut?_of_append
      opening_endsOnce.ne_nil before (link.label ++ middle ++ link.stem ++ closing ++ after)
    obtain ⟨passed, rfl⟩ := tail
    obtain ⟨label, afterMiddle, cutMiddle, tail⟩ := Text.exists_cut?_of_append
      middle_endsOnce.ne_nil (passed ++ link.label) (link.stem ++ closing ++ after)
    obtain ⟨passed', rfl⟩ := tail
    obtain ⟨stem, rest, cutClosing, -⟩ := Text.exists_cut?_of_append
      closing_endsOnce.ne_nil (passed' ++ link.stem) after
    simp only [List.append_assoc] at cutOpening cutMiddle cutClosing
    simp [next?, toText, cutOpening, cutMiddle, cutClosing] at none
  · intro unread
    cases found : next? text with
    | none => rfl
    | some parts =>
      obtain ⟨gap, link, rest⟩ := parts
      exact absurd ⟨gap, rest, (eq_append_of_next? found).symm⟩ (unread link)

end Link

namespace Document

variable {text : List Char}

theorem ofText_of_next?_eq_none (none : Link.next? text = none) : ofText text = ⟨[], text⟩ := by
  rw [ofText]
  split
  case h_1 => rfl
  case h_2 found => simp [none] at found

theorem ofText_of_next? {gap rest : List Char} {link : Link}
    (found : Link.next? text = some (gap, link, rest)) :
    ofText text = ⟨(gap, link) :: (ofText rest).linked, (ofText rest).remainder⟩ := by
  rw [ofText]
  split
  case h_1 none => simp [none] at found
  case h_2 found' =>
    rw [found] at found'
    cases found'
    rfl

theorem ofText_append {gap : List Char} {link : Link} (rest : List Char) (bare : '[' ∉ gap)
    (canonical : link.Canonical) :
    ofText (gap ++ link.toText ++ rest) =
      ⟨(gap, link) :: (ofText rest).linked, (ofText rest).remainder⟩ :=
  ofText_of_next? (Link.next?_eq_some_iff.2 ⟨rfl, bare, canonical⟩)

structure Canonical (document : Document) : Prop where
  gaps : ∀ part ∈ document.linked, '[' ∉ part.1
  links : ∀ part ∈ document.linked, part.2.Canonical
  remainder : ∀ link : Link, ¬ link.toText <:+: document.remainder

theorem canonical_ofText (text : List Char) : (ofText text).Canonical := by
  fun_induction ofText text with
  | case1 text none => exact ⟨by simp, by simp, Link.next?_eq_none_iff.1 none⟩
  | case2 text gap link rest found others ih =>
    obtain ⟨-, bare, canonical⟩ := Link.next?_eq_some_iff.1 found
    refine ⟨?_, ?_, ih.remainder⟩
    · exact List.forall_mem_cons.2 ⟨bare, ih.gaps⟩
    · exact List.forall_mem_cons.2 ⟨canonical, ih.links⟩

theorem Canonical.ofText_toText {document : Document} (canonical : document.Canonical) :
    ofText document.toText = document := by
  obtain ⟨linked, remainder⟩ := document
  induction linked with
  | nil =>
    simpa [toText] using ofText_of_next?_eq_none (Link.next?_eq_none_iff.2 canonical.remainder)
  | cons part linked ih =>
    have others := ih ⟨fun other member => canonical.gaps other (.tail _ member),
      fun other member => canonical.links other (.tail _ member), canonical.remainder⟩
    have bare := canonical.gaps part (.head _)
    have first := ofText_append (toText ⟨linked, remainder⟩) bare (canonical.links part (.head _))
    rw [others] at first
    simpa [toText] using first

end Document

end BrokenLinks
