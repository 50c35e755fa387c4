import BrokenLinks.Proofs.Document.Resumption
import Mathlib.Data.List.Infix

/-! Documents put together from plain texts and inline links.

Only a link to a page ends in `.md)`. A search that starts at a link of another kind does not stop
where that link does: it runs on to the end of the next link to a page, and takes all that it has
passed for one link. -/

set_option autoImplicit false

namespace BrokenLinks

def marks : List Char := ['[', ']', '(', ')', '!']

structure PlainText where
  chars : List Char
  plain : chars.all (· ∉ marks) = true

namespace PlainText

variable (text : PlainText)

theorem not_mem {c : Char} (mark : c ∈ marks) : c ∉ text.chars :=
  fun member => of_decide_eq_true (List.all_eq_true.1 text.plain c member) mark

theorem closing_absent : ¬ Link.closing <:+: text.chars :=
  fun occurs => text.not_mem (c := ')') (by decide) (occurs.subset (by decide))

theorem middle_absent : ¬ Link.middle <:+: text.chars :=
  fun occurs => text.not_mem (c := ']') (by decide) (occurs.subset (by decide))

end PlainText

inductive Piece where
  | plain (text : PlainText)
  | link (label target : PlainText)

namespace Piece

def toText : Piece → List Char
  | .plain text => text.chars
  | .link label target =>
    Link.opening ++ label.chars ++ Link.middle ++ target.chars ++ [')']

def page? : Piece → Option Link
  | .plain _ => none
  | .link label target => (target.chars.dropSuffix? Link.pageEnding).map (⟨label.chars, ·⟩)

theorem eq_link_of_page? {piece : Piece} {link : Link} (page : piece.page? = some link) :
    ∃ label target, piece = .link label target ∧ link.label = label.chars ∧
      target.chars = link.fileName := by
  cases piece with
  | plain text => contradiction
  | link label target =>
    obtain ⟨stem, found, rfl⟩ := Option.map_eq_some_iff.1 page
    obtain ⟨ending, same, ends⟩ := List.dropSuffix?_eq_some_iff.1 found
    exact ⟨label, target, rfl, rfl, by rw [same, eq_of_beq ends]; rfl⟩

theorem not_pageEnding_suffix {label target : PlainText}
    (other : (Piece.link label target).page? = none) : ¬ Link.pageEnding <:+ target.chars := by
  rintro ⟨stem, same⟩
  have found : target.chars.dropSuffix? Link.pageEnding = some stem :=
    List.dropSuffix?_eq_some_iff.2 ⟨Link.pageEnding, same.symm, by simp⟩
  simp [page?, found] at other

theorem toText_of_page? {piece : Piece} {link : Link} (page : piece.page? = some link) :
    piece.toText = link.toText := by
  obtain ⟨label, target, rfl, sameLabel, sameTarget⟩ := eq_link_of_page? page
  simp [toText, Link.toText_eq, sameLabel, sameTarget]

theorem canonical_of_page? {piece : Piece} {link : Link} (page : piece.page? = some link) :
    link.Canonical := by
  obtain ⟨label, target, rfl, sameLabel, sameTarget⟩ := eq_link_of_page? page
  refine ⟨sameLabel ▸ label.middle_absent, fun occurs => target.closing_absent ?_⟩
  exact sameTarget ▸ occurs.trans (List.prefix_append link.stem _).isInfix

theorem not_mem_fileName {piece : Piece} {link : Link} (page : piece.page? = some link) :
    ')' ∉ link.fileName := by
  obtain ⟨label, target, rfl, -, sameTarget⟩ := eq_link_of_page? page
  exact sameTarget ▸ target.not_mem (by decide)

theorem not_closing_infix_target {target : PlainText}
    (other : ¬ Link.pageEnding <:+ target.chars) : ¬ Link.closing <:+: target.chars ++ [')'] := by
  rw [← Text.cut?_eq_none_iff]
  exact Link.cut?_closing_eq_none target.closing_absent other

theorem not_closing_infix_append {piece : Piece} {passed : List Char}
    (other : piece.page? = none) (first : ¬ Link.closing <:+: passed) :
    ¬ Link.closing <:+: passed ++ piece.toText := by
  cases piece with
  | plain text => exact Link.not_closing_infix_append (text.not_mem (by decide)) first
  | link label target =>
    -- The parenthesis before the target keeps an end of a link out of the seam.
    have parted : Text.Parted Link.closing (passed ++ Link.opening ++ label.chars ++ [']'] ++ ['('])
        (target.chars ++ [')']) := Text.parted_of_last (by decide)
    have inLabel : ¬ Link.closing <:+: passed ++ (Link.opening ++ label.chars ++ [']'] ++ ['(']) :=
      Link.not_closing_infix_append
        (by simpa [Link.opening] using label.not_mem (c := ')') (by decide)) first
    have cut : passed ++ (Piece.link label target).toText = passed ++ Link.opening ++
        label.chars ++ [']'] ++ ['('] ++ (target.chars ++ [')']) := by
      simp [toText, Link.middle]
    simp only [← List.append_assoc] at inLabel
    rw [cut, parted.infix_append_iff]
    exact not_or.2 ⟨inLabel, not_closing_infix_target (not_pageEnding_suffix other)⟩

end Piece

/-- What a search takes for the link when it has passed its end and stops at that of another. -/
def Link.joined (passed link : Link) : Link where
  label := passed.label
  stem := passed.stem ++ Link.opening ++ link.label ++ Link.middle ++ link.stem

/-- The links to pages that a search does not meet, each after the one that it meets in its place.
While a link of another kind is open, its stem is all that has been passed since. -/
def overrunsFrom : Option Link → List Piece → List (Link × Link)
  | _, [] => []
  | none, .plain _ :: pieces => overrunsFrom none pieces
  | none, .link label target :: pieces =>
    match (Piece.link label target).page? with
    | some _ => overrunsFrom none pieces
    | none => overrunsFrom (some ⟨label.chars, target.chars ++ [')']⟩) pieces
  | some passed, piece :: pieces =>
    match piece.page? with
    | some link => (passed.joined link, link) :: overrunsFrom none pieces
    | none => overrunsFrom (some ⟨passed.label, passed.stem ++ piece.toText⟩) pieces

def overruns (pieces : List Piece) : List (Link × Link) :=
  overrunsFrom none pieces

theorem overruns_eq_nil {pieces : List Piece}
    (pages : ∀ piece ∈ pieces, (∃ text, piece = .plain text) ∨ ∃ link, piece.page? = some link) :
    overruns pieces = [] := by
  rw [overruns]
  induction pieces with
  | nil => rfl
  | cons piece pieces ih =>
    obtain ⟨first, others⟩ := List.forall_mem_cons.1 pages
    cases piece with
    | plain text => exact ih others
    | link label target =>
      obtain ⟨text, other⟩ | ⟨link, page⟩ := first
      · contradiction
      · simpa [overrunsFrom, page] using ih others

end BrokenLinks
