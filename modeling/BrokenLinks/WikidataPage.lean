/-! Pages of Wikidata, named by the stems of the links that lead to them. -/

set_option autoImplicit false

namespace BrokenLinks

inductive EntityKind where
  | item
  | property
  deriving DecidableEq, Repr

structure WikidataPage where
  kind : EntityKind
  id : List Char
  deriving DecidableEq, Repr

namespace WikidataPage

def baseUrl : List Char := "https://www.wikidata.org/wiki/".toList

def propertyNamespace : List Char := "Property:".toList

/-- A stem that starts with `P` names a property and any other an item. The rest of the stem
is not examined. -/
def ofStem (stem : List Char) : WikidataPage :=
  ⟨if stem.head? = some 'P' then .property else .item, stem⟩

def url (page : WikidataPage) : List Char :=
  match page.kind with
  | .item => baseUrl ++ page.id
  | .property => baseUrl ++ propertyNamespace ++ page.id

end WikidataPage

end BrokenLinks
