import BrokenLinks.Text

/-! Inline links to markdown pages: `[label](stem.md)`.

Label and stem are arbitrary text, brackets and line ends included. What bounds them is only
that the label stops at the first `](` and the stem at the first `.md)`. -/

set_option autoImplicit false

namespace BrokenLinks

structure Link where
  label : List Char
  stem : List Char
  deriving DecidableEq, Repr

namespace Link

def opening : List Char := ['[']

def middle : List Char := [']', '(']

def closing : List Char := ['.', 'm', 'd', ')']

def fileName (link : Link) : List Char :=
  link.stem ++ ['.', 'm', 'd']

def toText (link : Link) : List Char :=
  opening ++ link.label ++ middle ++ link.stem ++ closing

/-- A target with a scheme leads out of the tree, whatever its name ends in. -/
def isExternal (link : Link) : Bool :=
  Text.contains [':', '/', '/'] link.fileName

/-- The first link, between the text before it and the text after it. Each delimiter is taken
at its first occurrence after the one before; without a later `](` or `.md)` no other `[`
could do better. -/
def next? (text : List Char) : Option (List Char × Link × List Char) := do
  let (gap, afterOpening) ← Text.cut? opening text
  let (label, afterMiddle) ← Text.cut? middle afterOpening
  let (stem, rest) ← Text.cut? closing afterMiddle
  return (gap, ⟨label, stem⟩, rest)

theorem eq_append_of_next? {text gap rest : List Char} {link : Link}
    (h : next? text = some (gap, link, rest)) : text = gap ++ link.toText ++ rest := by
  simp only [next?, Option.bind_eq_bind, Option.bind_eq_some_iff, Prod.exists, Option.pure_def,
    Option.some.injEq, Prod.mk.injEq] at h
  obtain ⟨_, _, cutOpening, _, _, cutMiddle, _, _, cutClosing, rfl, rfl, rfl⟩ := h
  rw [Text.eq_append_of_cut? cutOpening, Text.eq_append_of_cut? cutMiddle,
    Text.eq_append_of_cut? cutClosing]
  simp [toText]

theorem length_rest_lt {text gap rest : List Char} {link : Link}
    (h : next? text = some (gap, link, rest)) : rest.length < text.length := by
  simp only [eq_append_of_next? h, toText, opening, List.length_append, List.length_cons]
  omega

end Link

end BrokenLinks
