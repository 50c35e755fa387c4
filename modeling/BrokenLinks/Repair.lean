import BrokenLinks.Document
import BrokenLinks.Log.Basic
import BrokenLinks.WikidataPage

/-! The repair of one text: links to missing pages are led to Wikidata.

A link is judged by its file name alone. The text is put together again from its gaps and the
links as they were judged, and then two spellings of the placeholder are replaced wherever they
stand, inside links or outside. -/

set_option autoImplicit false

namespace BrokenLinks

inductive Verdict where
  | external
  | present
  | missing
  deriving DecidableEq, Repr

namespace Link

/-- Asks whether the page exists, unless the link leads out of the tree. -/
def judge {m : Type → Type} [Monad m] (isLocal : List Char → m Bool) (link : Link) :
    m Verdict :=
  if link.isExternal then pure .external
  else do return if ← isLocal link.fileName then .present else .missing

def page (link : Link) : WikidataPage :=
  .ofStem link.stem

def settled (link : Link) : Verdict → List Char
  | .external | .present => link.toText
  | .missing => opening ++ link.label ++ middle ++ link.page.url ++ [')']

def record? (link : Link) : Verdict → Option Record
  | .external =>
    some ⟨.trace, .links, s!"Leaving external link to {String.ofList link.fileName}"⟩
  | .present => none
  | .missing =>
    some ⟨.debug, .links,
      s!"Rewriting link to {String.ofList link.fileName} as {String.ofList link.page.url}"⟩

end Link

structure Substitution where
  pattern : List Char
  substitute : List Char

namespace Substitution

def apply (substitution : Substitution) (text : List Char) : List Char :=
  Text.replaceAll substitution.pattern substitution.substitute text

/-- However often the pattern occurs, its replacement is one change. -/
def changes (substitution : Substitution) (text : List Char) : Nat :=
  if Text.contains substitution.pattern text then 1 else 0

def placeholderItem : List Char := "Q363948".toList

def placeholderUrl : List Char := WikidataPage.baseUrl ++ placeholderItem

/-- The link that stands for a page still to be named, once it has been led to Wikidata. -/
def placeholderLink : Substitution where
  pattern := "[!](".toList ++ WikidataPage.baseUrl ++ "!)".toList
  substitute := Link.opening ++ placeholderItem ++ Link.middle ++ placeholderUrl ++ [')']

def placeholderTarget : Substitution where
  pattern := "(!.md)".toList
  substitute := ['('] ++ placeholderUrl ++ [')']

end Substitution

structure Repair where
  text : List Char
  /-- Links led to Wikidata, and one for each substitution that found its pattern. -/
  changes : Nat
  judged : List (Link × Verdict)

namespace Document

def settle (document : Document) (verdicts : List Verdict) : List Char :=
  ((document.linked.zip verdicts).flatMap fun ((gap, link), verdict) =>
    gap ++ link.settled verdict) ++ document.remainder

def repair (document : Document) (verdicts : List Verdict) : Repair :=
  let settled := document.settle verdicts
  let linked := Substitution.placeholderLink.apply settled
  { text := Substitution.placeholderTarget.apply linked
    changes := verdicts.count .missing + Substitution.placeholderLink.changes settled +
      Substitution.placeholderTarget.changes linked
    judged := document.links.zip verdicts }

end Document

namespace Repair

def ofTextM {m : Type → Type} [Monad m] (isLocal : List Char → m Bool) (text : List Char) :
    m Repair := do
  let document := Document.ofText text
  return document.repair (← document.links.mapM (·.judge isLocal))

def ofText (isLocal : List Char → Bool) (text : List Char) : Repair :=
  Id.run (ofTextM (fun fileName => pure (isLocal fileName)) text)

def isChanged (repair : Repair) : Bool :=
  repair.changes > 0

def records (repair : Repair) : List Record :=
  repair.judged.filterMap fun (link, verdict) => link.record? verdict

end Repair

end BrokenLinks
