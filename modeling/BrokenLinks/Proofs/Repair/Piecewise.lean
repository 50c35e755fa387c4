import BrokenLinks.Proofs.Repair.Growth
import BrokenLinks.Proofs.Repair.Kept

/-! Repairs part by part: the text, the changes and the questions.

Cut at its links, a text falls into gaps, links and a remainder, and neither spelling of the
placeholder lies across a seam. So the repaired text is that of the parts one after the other, a
substitution finds its pattern in the whole if it finds it in a part, and what is asked on the way
is asked link by link. -/

set_option autoImplicit false

namespace BrokenLinks

open Substitution

variable {isLocal : List Char → Bool}

namespace Link

/-- The link itself if it leads out of the tree or to a local page, and else one to Wikidata. -/
def redirected (isLocal : List Char → Bool) (link : Link) : List Char :=
  if link.isExternal || isLocal link.fileName then link.toText
  else opening ++ link.label ++ middle ++ link.page.url ++ [')']

theorem settled_verdict_eq_redirected (link : Link) :
    link.settled (link.verdict isLocal) = link.redirected isLocal := by
  unfold redirected verdict
  cases link.isExternal with
  | true => rfl
  | false => cases isLocal link.fileName <;> rfl

theorem redirected_ne_toText_iff {link : Link} :
    link.redirected isLocal ≠ link.toText ↔ link.verdict isLocal = .missing := by
  rw [← settled_verdict_eq_redirected]
  constructor
  · intro different
    by_contra kept
    exact different (settled_of_led (verdict_ne_missing_iff.1 kept))
  · intro missing same
    have longer := link.utf8Length_settled .missing
    rw [← missing, same, missing, if_pos rfl] at longer
    have := link.growth_ne_zero
    omega

end Link

namespace Document

/-- Gaps and redirected links in turn, and the remainder. -/
def parts (isLocal : List Char → Bool) (document : Document) : List (List Char) :=
  (document.linked.flatMap fun (gap, link) => [gap, link.redirected isLocal]) ++
    [document.remainder]

def questions (document : Document) : List (List Char) :=
  (document.links.filter fun link => !link.isExternal).map Link.fileName

theorem flatten_parts (isLocal : List Char → Bool) (document : Document) :
    (document.parts isLocal).flatten =
      document.settle (document.links.map (·.verdict isLocal)) := by
  obtain ⟨linked, remainder⟩ := document
  simp only [parts, settle, links]
  induction linked with
  | nil => simp
  | cons part linked ih =>
    simp only [List.flatMap_cons, List.map_cons, List.zip_cons_cons, List.cons_append,
      List.nil_append, List.flatten_cons, ih, Link.settled_verdict_eq_redirected, List.append_assoc]

theorem flatMap_placeholders_parts (isLocal : List Char → Bool) (document : Document) :
    (document.parts isLocal).flatMap placeholders = document.repaired isLocal := by
  simp only [parts, repaired, Link.replacement, Link.settled_verdict_eq_redirected,
    List.flatMap_append, List.flatMap_assoc, List.flatMap_cons, List.flatMap_nil, List.append_nil]

/-- A pattern that has no bracket but at its start, and no parenthesis that closes but at its end,
lies across no seam. -/
theorem infix_flatten_parts_iff {pattern : List Char} (starts : '[' ∉ pattern.tail)
    (ends : ')' ∉ pattern.dropLast) (document : Document) :
    pattern <:+: (document.parts isLocal).flatten ↔
      ∃ part ∈ document.parts isLocal, pattern <:+: part := by
  obtain ⟨linked, remainder⟩ := document
  simp only [parts]
  induction linked with
  | nil => simp
  | cons part linked ih =>
    obtain ⟨gap, link⟩ := part
    rw [List.flatMap_cons]
    simp only [List.cons_append, List.nil_append, List.flatten_cons, List.exists_mem_cons_iff, ← ih]
    rw [← link.settled_verdict_eq_redirected]
    have beforeLink (rest : List Char) :
        Text.Parted pattern gap (link.settled (link.verdict isLocal) ++ rest) :=
      Text.parted_of_head? (link.head?_settled _ rest) starts
    have afterLink (rest : List Char) :
        Text.Parted pattern (link.settled (link.verdict isLocal)) rest :=
      Text.parted_of_getLast? (link.getLast?_settled _) ends
    rw [(beforeLink _).infix_append_iff, (afterLink _).infix_append_iff]

end Document

namespace Substitution

variable {substitution : Substitution} {text : List Char}

def Alters (substitution : Substitution) (text : List Char) : Prop :=
  substitution.apply text ≠ text

instance (substitution : Substitution) : DecidablePred substitution.Alters :=
  fun text => inferInstanceAs (Decidable (substitution.apply text ≠ text))

theorem alters_iff (empty : substitution.pattern ≠ []) {growth : Nat} (grows : growth ≠ 0)
    (longer : Text.utf8Length substitution.substitute =
      Text.utf8Length substitution.pattern + growth) :
    substitution.Alters text ↔ substitution.pattern <:+: text := by
  -- What takes the place of a pattern is longer, so it shows wherever the pattern stands.
  constructor
  · intro altered
    by_contra absent
    exact altered (Text.replaceAll_eq_self absent)
  · intro occurs same
    have measured := utf8Length_apply empty longer text
    have found := mt (Text.occurrences_eq_zero_iff empty).1 (not_not_intro occurs)
    have product := Nat.mul_ne_zero grows found
    rw [same] at measured
    omega

theorem placeholderLink_alters_iff :
    placeholderLink.Alters text ↔ placeholderLink.pattern <:+: text := by
  have longer : Text.utf8Length placeholderLink.substitute =
      Text.utf8Length placeholderLink.pattern + 12 := by decide
  exact alters_iff placeholderLink_ne_nil (by decide) longer

theorem placeholderTarget_alters_iff :
    placeholderTarget.Alters text ↔ placeholderTarget.pattern <:+: text := by
  have longer : Text.utf8Length placeholderTarget.substitute =
      Text.utf8Length placeholderTarget.pattern + 33 := by decide
  exact alters_iff placeholderTarget_ne_nil (by decide) longer

/-- The first substitution makes no target and breaks none. -/
theorem target_infix_apply_link_iff :
    placeholderTarget.pattern <:+: placeholderLink.apply text ↔
      placeholderTarget.pattern <:+: text := by
  refine ⟨fun occurs => (infix_of_infix_apply (by decide) (by decide) (by decide) (by decide)
    (by decide) (by decide) occurs).1, fun occurs => ?_⟩
  unfold apply
  induction text using Text.replaceAll_induction placeholderLink_ne_nil with
  | nil => exact occurs
  | found text ih =>
    have parted : Text.Parted placeholderTarget.pattern placeholderLink.pattern text :=
      Text.parted_of_getLast? (show _ = some ')' by decide) (by decide)
    have inText := (parted.infix_append_iff.1 occurs).resolve_left (by decide)
    rw [Text.replaceAll_pattern_append placeholderLink_ne_nil]
    exact (ih inText).trans (List.suffix_append _ _).isInfix
  | other c text absent ih =>
    rcases List.infix_cons_iff.1 occurs with ⟨rest, starts⟩ | inText
    · have parted : Text.Parted placeholderLink.pattern placeholderTarget.pattern rest :=
        Text.parted_of_getLast? (show _ = some ')' by decide) (by decide)
      have unlike : ¬placeholderLink.pattern <:+: placeholderTarget.pattern := by decide
      rw [← starts, Text.replaceAll_append placeholderLink_ne_nil parted,
        Text.replaceAll_eq_self unlike]
      exact (List.prefix_append _ _).isInfix
    · rw [Text.replaceAll_cons_of_absent absent]
      exact (ih inText).trans (List.suffix_cons c _).isInfix

theorem changes_link_flatten (document : Document) :
    placeholderLink.changes (document.parts isLocal).flatten =
      if ∃ part ∈ document.parts isLocal, placeholderLink.Alters part then 1 else 0 := by
  -- A change of the whole is one of some part, since no occurrence lies across a seam.
  unfold changes
  refine if_congr ?_ rfl rfl
  rw [Text.contains_iff, Document.infix_flatten_parts_iff (by decide) (by decide)]
  simp only [placeholderLink_alters_iff]

theorem changes_target_flatten (document : Document) :
    placeholderTarget.changes (placeholderLink.apply (document.parts isLocal).flatten) =
      if ∃ part ∈ document.parts isLocal, placeholderTarget.Alters (placeholderLink.apply part)
        then 1 else 0 := by
  -- What the first substitution has left of a part is all that the second one meets there.
  unfold changes
  refine if_congr ?_ rfl rfl
  rw [Text.contains_iff, target_infix_apply_link_iff,
    Document.infix_flatten_parts_iff (by decide) (by decide)]
  simp only [placeholderTarget_alters_iff, target_infix_apply_link_iff]

end Substitution

def noted (isLocal : List Char → Bool) (fileName : List Char) : StateM (List (List Char)) Bool := do
  modify (· ++ [fileName])
  return isLocal fileName

theorem Link.run_judge_noted (link : Link) (asked : List (List Char)) :
    (link.judge (noted isLocal)).run asked =
      (link.verdict isLocal, asked ++ if link.isExternal then [] else [link.fileName]) := by
  unfold judge verdict
  cases link.isExternal with
  | true => exact congrArg (Prod.mk _) (List.append_nil asked).symm
  | false => rfl

theorem run_mapM_judge_noted (isLocal : List Char → Bool) (links : List Link)
    (asked : List (List Char)) :
    (links.mapM (Link.judge (noted isLocal))).run asked =
      (links.map (·.verdict isLocal),
        asked ++ (links.filter fun link => !link.isExternal).map Link.fileName) := by
  induction links generalizing asked with
  | nil => exact congrArg (Prod.mk []) (List.append_nil asked).symm
  | cons link links ih =>
    rw [List.mapM_cons, StateT.run_bind, link.run_judge_noted]
    -- The question of the first link, if there is one, is taken down before those of the others.
    have others := congrArg
      (fun answered : List Verdict × List (List Char) =>
        (link.verdict isLocal :: answered.1, answered.2))
      (ih (asked ++ if link.isExternal then [] else [link.fileName]))
    refine others.trans ?_
    cases external : link.isExternal <;> simp [external]

namespace Repair

/-- A repair acts on each part of the text by itself: the parts are put together again after both
substitutions, every redirected link is a change, and a substitution is one more if it alters a
part. Each link that stays in the tree is asked about once, in the order of the text. -/
theorem piecewise (isLocal : List Char → Bool) (text : List Char) :
    let document := Document.ofText text
    let parts := document.parts isLocal
    document.toText = text ∧
      (ofText isLocal text).text = parts.flatMap placeholders ∧
      (ofText isLocal text).changes =
        document.links.countP (fun link => link.redirected isLocal ≠ link.toText) +
          (if ∃ part ∈ parts, placeholderLink.Alters part then 1 else 0) +
          (if ∃ part ∈ parts, placeholderTarget.Alters (placeholderLink.apply part)
            then 1 else 0) ∧
      ∀ asked, (ofTextM (noted isLocal) text).run asked =
        (ofText isLocal text, asked ++ document.questions) := by
  intro document parts
  refine ⟨Document.toText_ofText text, ?_, ?_, fun asked => ?_⟩
  · rw [text_ofText_eq_repaired, Document.flatMap_placeholders_parts]
  · have counted : (document.links.map (·.verdict isLocal)).count .missing =
        document.links.countP fun link => link.redirected isLocal ≠ link.toText := by
      rw [← Document.length_missing, Document.missing, ← List.countP_eq_length_filter]
      exact List.countP_congr fun link _ => by simp [Link.redirected_ne_toText_iff]
    rw [← counted, ← changes_link_flatten, ← changes_target_flatten, Document.flatten_parts,
      ofText_eq]
    rfl
  · simp only [ofTextM, StateT.run_bind]
    rw [run_mapM_judge_noted, ofText_eq]
    rfl

end Repair

end BrokenLinks
