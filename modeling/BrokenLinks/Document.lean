import BrokenLinks.Link

/-! A text cut at its links, and the place of each link in bytes. -/

set_option autoImplicit false

namespace BrokenLinks

/-- A sequence of links, each with the gap of text before it, and the text after the last. -/
structure Document where
  linked : List (List Char × Link)
  remainder : List Char
  deriving DecidableEq, Repr

/-- A link and the bytes it occupies, the end exclusive. -/
structure Occurrence where
  link : Link
  start : Nat
  stop : Nat
  deriving DecidableEq, Repr

namespace Document

/-- Cuts a text from left to right; a search starts where the link before it ends. -/
def ofText (text : List Char) : Document :=
  match _found : Link.next? text with
  | none => ⟨[], text⟩
  | some (gap, link, rest) =>
    let others := ofText rest
    ⟨(gap, link) :: others.linked, others.remainder⟩
  termination_by text.length
  decreasing_by exact Link.length_rest_lt _found

def toText (document : Document) : List Char :=
  (document.linked.flatMap fun (gap, link) => gap ++ link.toText) ++ document.remainder

theorem toText_ofText (text : List Char) : (ofText text).toText = text := by
  fun_induction ofText text with
  | case1 text none => simp [toText]
  | case2 text gap link rest found others ih =>
    rw [Link.eq_append_of_next? found]
    simp only [toText] at ih
    simp [toText, ih, others]

def links (document : Document) : List Link :=
  document.linked.map (·.2)

def occurrencesFrom : Nat → List (List Char × Link) → List Occurrence
  | _, [] => []
  | offset, (gap, link) :: linked =>
    let start := offset + Text.utf8Length gap
    let stop := start + Text.utf8Length link.toText
    ⟨link, start, stop⟩ :: occurrencesFrom stop linked

def occurrences (document : Document) : List Occurrence :=
  occurrencesFrom 0 document.linked

end Document

end BrokenLinks
