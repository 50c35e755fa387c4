import BrokenLinks.Proofs.Repair.Settlement

/-! What the placeholder substitutions do to the parts of a link.

A placeholder can begin in a label and end in the target after it. Cut at the delimiters of a
link, a respelled text falls into parts of which labels and gaps are only altered, while targets
are respelled: a target that comes out differently leads to Wikidata. -/

set_option autoImplicit false

namespace BrokenLinks

open Substitution

def pageSpellings : List (List Char) := [WikidataPage.baseUrl ++ ['!'], ['!', '.', 'm', 'd']]

/-- Some exclamation marks stand for the placeholder's item, and some targets `!.md` for its
page. -/
inductive Altered : List Char → List Char → Prop where
  | nil : Altered [] []
  | keep {before after : List Char} (c : Char) :
      Altered before after → Altered (c :: before) (c :: after)
  | item {before after : List Char} :
      Altered before after → Altered ('!' :: before) (placeholderItem ++ after)
  | target {before after : List Char} : Altered before after →
      Altered (['!', '.', 'm', 'd'] ++ before) (placeholderUrl ++ after)

/-- The placeholders of a text, whole or from a target on, are spelled out. -/
inductive Respelled : List Char → List Char → Prop where
  | nil : Respelled [] []
  | keep {before after : List Char} (c : Char) :
      Respelled before after → Respelled (c :: before) (c :: after)
  | link {before after : List Char} : Respelled before after →
      Respelled ('[' :: '!' :: ']' :: '(' :: (WikidataPage.baseUrl ++ '!' :: before))
        ('[' :: placeholderItem ++ ']' :: '(' :: (placeholderUrl ++ after))
  | page {spelling before after : List Char} (known : spelling ∈ pageSpellings) :
      Respelled before after → Respelled (spelling ++ before) (placeholderUrl ++ after)

variable {before after text : List Char}

theorem respelled_placeholders (text : List Char) : Respelled text (placeholders text) := by
  induction text using placeholders_induction with
  | nil => exact .nil
  | link text ih =>
    rw [placeholders_link_append]
    simpa [placeholderLink, Link.opening, Link.middle] using Respelled.link (.keep ')' ih)
  | target text ih =>
    rw [placeholders_target_append]
    have known : ['!', '.', 'm', 'd'] ∈ pageSpellings := .tail _ (.head _)
    have page := Respelled.page known (.keep ')' ih)
    exact .keep '(' page
  | other c text noLink noTarget ih =>
    rw [placeholders_cons noLink noTarget]
    exact .keep c ih

theorem Altered.append_left (altered : Altered before after) (kept : List Char) :
    Altered (kept ++ before) (kept ++ after) := by
  induction kept with
  | nil => exact altered
  | cons c kept ih => exact .keep c ih

theorem Altered.page {spelling : List Char} (known : spelling ∈ pageSpellings)
    (altered : Altered before after) : Altered (spelling ++ before) (placeholderUrl ++ after) := by
  simp only [pageSpellings, List.mem_cons, List.not_mem_nil, or_false] at known
  rcases known with rfl | rfl
  · have page := (Altered.item altered).append_left WikidataPage.baseUrl
    rw [← List.append_assoc] at page
    rw [List.append_assoc]
    exact page
  · exact .target altered

theorem Respelled.altered (respelled : Respelled before after) : Altered before after := by
  induction respelled with
  | nil => exact .nil
  | keep c _ ih => exact .keep c ih
  | link _ ih =>
    have page := Altered.page (.head _) ih
    rw [List.append_assoc] at page
    exact .keep '[' (.item (.keep ']' (.keep '(' page)))
  | page known _ ih => exact .page known ih

theorem scheme_infix_placeholderUrl : Link.scheme <:+: placeholderUrl :=
  (WikidataPage.scheme_infix_of_mem (.head _)).trans (List.prefix_append _ _).isInfix

theorem Respelled.eq_or_scheme (respelled : Respelled before after) :
    before = after ∨ Link.scheme <:+: after := by
  -- Whatever is spelled out names a page of Wikidata.
  induction respelled with
  | nil => exact .inl rfl
  | keep c _ ih =>
    exact ih.imp (congrArg (c :: ·)) (·.trans (List.suffix_cons c _).isInfix)
  | @link before after _ _ =>
    refine .inr (scheme_infix_placeholderUrl.trans ?_)
    exact ⟨'[' :: placeholderItem ++ [']', '('], after, by simp⟩
  | page _ _ _ => exact .inr (scheme_infix_placeholderUrl.trans (List.prefix_append _ _).isInfix)

/-! ## Delimiters of an altered text -/

/-- A mark that neither shows in what is spelled out nor runs into it. -/
def Legible (mark : List Char) : Prop :=
  ∀ spelled ∈ [placeholderItem, placeholderUrl], Text.Clear mark spelled ∧ Text.Clear spelled mark

instance {mark : List Char} : Decidable (Legible mark) :=
  inferInstanceAs (Decidable (∀ spelled ∈ [placeholderItem, placeholderUrl], _))

theorem legible_opening : Legible Link.opening := by decide

theorem legible_middle : Legible Link.middle := by decide

theorem legible_closing : Legible Link.closing := by decide

namespace Altered

variable {mark : List Char}

theorem of_append {rest' : List Char}
    (clear : ∀ spelled ∈ [placeholderItem, placeholderUrl], Text.Clear mark spelled)
    (altered : Altered before (mark ++ rest')) :
    ∃ rest, before = mark ++ rest ∧ Altered rest rest' := by
  induction mark generalizing before with
  | nil => exact ⟨before, rfl, altered⟩
  | cons c mark ih =>
    generalize same : c :: mark ++ rest' = after at altered
    cases altered with
    | nil => contradiction
    | keep c' altered =>
      cases same
      obtain ⟨rest, rfl, inside⟩ :=
        ih (fun spelled known => (clear spelled known).of_cons) altered
      exact ⟨rest, rfl, inside⟩
    | item => exact absurd ⟨rest', same⟩ ((clear _ (.head _)).not_prefix_append (by simp))
    | target =>
      exact absurd ⟨rest', same⟩ ((clear _ (.tail _ (.head _))).not_prefix_append (by simp))

/-- A mark that starts in a substitute would show in it, so it starts after it. -/
theorem exists_of_spelled_append {spelled kept rest' after : List Char}
    (clear : Text.Clear spelled mark) (same : kept ++ (mark ++ rest') = spelled ++ after) :
    ∃ more, kept = spelled ++ more ∧ more ++ (mark ++ rest') = after := by
  rcases List.append_eq_append_iff.1 same with ⟨more, rfl, ended⟩ | ⟨more, rfl, rfl⟩
  · by_cases empty : more = []
    · subst empty
      exact ⟨[], by simp, ended⟩
    · obtain ⟨inside, beyond⟩ := clear more ((List.mem_tails _ _).2 ⟨kept, rfl⟩) empty
      exact absurd (List.prefix_or_prefix_of_prefix ⟨after, ended.symm⟩ ⟨rest', rfl⟩)
        (not_or.2 ⟨inside, beyond⟩)
  · exact ⟨more, rfl, rfl⟩

theorem reflect {kept' rest' : List Char} (legible : Legible mark)
    (altered : Altered before (kept' ++ mark ++ rest')) :
    ∃ kept rest, before = kept ++ mark ++ rest ∧ Altered kept kept' ∧ Altered rest rest' := by
  generalize same : kept' ++ mark ++ rest' = after at altered
  rw [List.append_assoc] at same
  -- By induction on what is kept and spelled out in front of the mark.
  induction altered generalizing kept' with
  | nil =>
    simp only [List.append_eq_nil_iff] at same
    obtain ⟨rfl, rfl, rfl⟩ := same
    exact ⟨[], [], rfl, .nil, .nil⟩
  | @keep before after c altered ih =>
    cases kept' with
    | nil =>
      obtain ⟨rest, found, inside⟩ := of_append (fun spelled known => (legible spelled known).1)
        (same ▸ Altered.keep c altered)
      exact ⟨[], rest, found, .nil, inside⟩
    | cons c' kept' =>
      obtain ⟨rfl, follows⟩ := List.cons.inj same
      obtain ⟨kept, rest, rfl, inside, outside⟩ := ih follows
      exact ⟨c' :: kept, rest, rfl, .keep c' inside, outside⟩
  | item _ ih =>
    obtain ⟨more, rfl, follows⟩ := exists_of_spelled_append (legible _ (.head _)).2 same
    obtain ⟨kept, rest, rfl, inside, outside⟩ := ih follows
    exact ⟨'!' :: kept, rest, rfl, .item inside, outside⟩
  | target _ ih =>
    obtain ⟨more, rfl, follows⟩ :=
      exists_of_spelled_append (legible _ (.tail _ (.head _))).2 same
    obtain ⟨kept, rest, rfl, inside, outside⟩ := ih follows
    exact ⟨['!', '.', 'm', 'd'] ++ kept, rest, by simp, .target inside, outside⟩

theorem infix_of_infix (legible : Legible mark) (altered : Altered before after)
    (occurs : mark <:+: after) : mark <:+: before := by
  obtain ⟨kept', rest', rfl⟩ := occurs
  obtain ⟨kept, rest, rfl, -, -⟩ := altered.reflect legible
  exact List.infix_append kept mark rest

theorem opening_mem_of_mem (altered : Altered before after) (member : '[' ∈ after) :
    '[' ∈ before :=
  Link.opening_infix_iff.1
    (altered.infix_of_infix legible_opening (Link.opening_infix_iff.2 member))

theorem exists_link_of_link (altered : Altered before after) {link : Link}
    (occurs : link.toText <:+: after) : ∃ other : Link, other.toText <:+: before := by
  obtain ⟨front', back', rfl⟩ := occurs
  have split : front' ++ link.toText ++ back' = front' ++ Link.opening ++
      (link.label ++ Link.middle ++ (link.stem ++ Link.closing ++ back')) := by
    simp [Link.toText]
  rw [split] at altered
  obtain ⟨front, _, rfl, -, inside⟩ := altered.reflect legible_opening
  obtain ⟨label, _, rfl, -, inside⟩ := inside.reflect legible_middle
  obtain ⟨stem, back, rfl, -, -⟩ := inside.reflect legible_closing
  exact ⟨⟨label, stem⟩, front, back, by simp [Link.toText]⟩

end Altered

/-! ## Cutting a respelled text -/

namespace Respelled

def delimiters : List Char := ['[', ']', '(', ')']

theorem delimiter_not_mem :
    ∀ spelling ∈ pageSpellings, ∀ c ∈ delimiters, c ∉ spelling := by
  have apart : (pageSpellings.all fun spelling => delimiters.all (· ∉ spelling)) = true := by
    decide
  simpa only [List.all_eq_true, decide_eq_true_eq] using apart

theorem split {gap rest : List Char} {c : Char} (delimits : c = '[' ∧ '[' ∉ gap ∨ c = ')')
    (respelled : Respelled (gap ++ c :: rest) after) :
    ∃ gap' after', after = gap' ++ after' ∧ Respelled gap gap' ∧
      Respelled (c :: rest) after' := by
  -- A placeholder link lies on one side of a parenthesis that ends a link, and of the first
  -- bracket.
  generalize same : gap ++ c :: rest = before at respelled
  induction respelled generalizing gap with
  | nil => simp at same
  | @keep before after c' respelled ih =>
    cases gap with
    | nil =>
      cases same
      exact ⟨[], c :: after, rfl, .nil, .keep c respelled⟩
    | cons first gap =>
      obtain ⟨rfl, follows⟩ := List.cons.inj same
      have delimits' : c = '[' ∧ '[' ∉ gap ∨ c = ')' :=
        delimits.imp_left (And.imp_right (mt (List.mem_cons_of_mem first)))
      obtain ⟨gap', after', rfl, inside, outside⟩ := ih delimits' follows
      exact ⟨first :: gap', after', rfl, .keep first inside, outside⟩
  | @link before after respelled ih =>
    -- The placeholder link begins in the gap, so its bracket rules out the first alternative.
    cases gap with
    | nil =>
      cases same
      exact ⟨[], _, rfl, .nil, .link respelled⟩
    | cons first gap =>
      obtain ⟨rfl, follows⟩ := List.cons.inj same
      obtain rfl : c = ')' := delimits.resolve_left (by simp)
      have passes : gap ++ ')' :: rest =
          ('!' :: ']' :: '(' :: WikidataPage.baseUrl ++ ['!']) ++ before := by
        simpa using follows
      obtain ⟨more, rfl, others⟩ := Text.exists_append_of_not_mem (by decide) passes
      obtain ⟨gap', after', rfl, inside, outside⟩ := ih (.inr rfl) others
      refine ⟨'[' :: placeholderItem ++ ']' :: '(' :: (placeholderUrl ++ gap'), after', by simp,
        ?_, outside⟩
      simpa using Respelled.link inside
  | @page spelling before after known _ ih =>
    -- No delimiter stands in the spelling, so all of it lies before this one.
    have outside : c ∉ spelling := delimiter_not_mem spelling known c (by
      rcases delimits with ⟨rfl, -⟩ | rfl <;> decide)
    obtain ⟨more, rfl, follows⟩ := Text.exists_append_of_not_mem outside same
    have delimits' : c = '[' ∧ '[' ∉ more ∨ c = ')' :=
      delimits.imp_left (And.imp_right (mt (List.mem_append_right spelling)))
    obtain ⟨gap', after', rfl, inside, outside⟩ := ih delimits' follows
    exact ⟨placeholderUrl ++ gap', after', by simp, .page known inside, outside⟩

theorem of_cons {c : Char} {rest : List Char} (delimits : c ∈ delimiters) (other : c ≠ '[')
    (respelled : Respelled (c :: rest) after) :
    ∃ after', after = c :: after' ∧ Respelled rest after' := by
  -- A delimiter other than an opening bracket starts nothing that is spelled out.
  generalize same : c :: rest = before at respelled
  cases respelled with
  | nil => contradiction
  | @keep before after c' respelled =>
    cases same
    exact ⟨after, rfl, respelled⟩
  | link => exact absurd (List.cons.inj same).1 other
  | page known =>
    -- A spelling without the delimiter at its start would be empty.
    have inSpelling := delimiter_not_mem _ known c delimits
    obtain ⟨more, empty, -⟩ :=
      Text.exists_append_of_not_mem inSpelling (show [] ++ c :: rest = _ from same)
    rw [(List.append_eq_nil_iff.1 empty.symm).1] at known
    exact absurd known (by decide)

/-- A placeholder link can lie across the middle of a link; its halves are then spelled out each
on its own. -/
theorem split_middle {label rest : List Char} (first : ¬ Link.middle <:+: label)
    (respelled : Respelled (label ++ Link.middle ++ rest) after) :
    ∃ label' rest', after = label' ++ Link.middle ++ rest' ∧ Altered label label' ∧
      Respelled rest rest' := by
  generalize same : label ++ Link.middle ++ rest = before at respelled
  rw [List.append_assoc] at same
  induction respelled generalizing label with
  | nil => simp [Link.middle] at same
  | @keep before after c respelled ih =>
    cases label with
    | nil =>
      cases same
      obtain ⟨rest', rfl, inside⟩ := of_cons (by decide) (by decide) respelled
      exact ⟨[], rest', rfl, .nil, inside⟩
    | cons c' label =>
      obtain ⟨rfl, follows⟩ := List.cons.inj same
      have first' := mt (List.IsInfix.trans · (List.suffix_cons c' label).isInfix) first
      obtain ⟨label', rest', rfl, inside, outside⟩ := ih first' follows
      exact ⟨c' :: label', rest', rfl, .keep c' inside, outside⟩
  | @link before after respelled _ =>
    -- The first middle is that of the placeholder link, and so the label is what stands before it.
    have here : Text.cut? Link.middle (label ++ (Link.middle ++ rest)) = some (label, rest) :=
      (Text.cut?_eq_some_iff Link.middle_endsOnce).2 ⟨by simp, first⟩
    have there : Text.cut? Link.middle (['[', '!', ']', '('] ++ (WikidataPage.baseUrl ++
        '!' :: before)) = some (['[', '!'], WikidataPage.baseUrl ++ '!' :: before) :=
      (Text.cut?_eq_some_iff Link.middle_endsOnce).2 ⟨rfl, by decide⟩
    rw [same] at here
    cases here.symm.trans there
    refine ⟨'[' :: placeholderItem, placeholderUrl ++ after, by simp [Link.middle], ?_, ?_⟩
    · exact .keep '[' (.item .nil)
    · rw [List.append_cons]
      exact .page (.head _) respelled
  | @page spelling before after known _ ih =>
    obtain ⟨more, rfl, follows⟩ :=
      Text.exists_append_of_not_mem (delimiter_not_mem spelling known ']' (by decide)) same
    have first' := mt (List.IsInfix.trans · (List.suffix_append spelling more).isInfix) first
    obtain ⟨label', rest', rfl, inside, outside⟩ := ih first' follows
    exact ⟨placeholderUrl ++ label', rest', by simp, .page known inside, outside⟩

end Respelled

end BrokenLinks
