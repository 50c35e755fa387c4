import BrokenLinks.Character.Bounds
import BrokenLinks.Character.Set

/-! Properties of characters in every script. -/

set_option autoImplicit false

namespace BrokenLinks.Character

def letters : CharSet := ⟨letterBounds⟩

def marks : CharSet := ⟨markBounds⟩

def decimalDigits : CharSet := ⟨decimalDigitBounds⟩

def numbers : CharSet :=
  (decimalDigits.union ⟨letterNumberBounds⟩).union ⟨otherNumberBounds⟩

def punctuation : CharSet := ⟨punctuationBounds⟩

def symbols : CharSet := ⟨symbolBounds⟩

def separators : CharSet := ⟨separatorBounds⟩

def blanks : CharSet := ⟨blankBounds⟩

def others : CharSet :=
  (CharSet.unionAll [letters, marks, numbers, punctuation, symbols, separators]).complement

def alphabetic : CharSet :=
  (letters.union ⟨letterNumberBounds⟩).union ⟨otherAlphabeticBounds⟩

def nameLetters : CharSet := alphabetic.union ⟨newAlphabeticBounds⟩

def nameParts : CharSet := .unionAll [nameLetters, numbers, ⟨newDigitBounds⟩]

def joiners : CharSet := .range '\u200c' '\u200d'

def wordParts : CharSet :=
  .unionAll [alphabetic, marks, decimalDigits, ⟨connectorBounds⟩, joiners]

def isBlank (c : Char) : Bool := blanks.contains c

def trim (text : List Char) : List Char :=
  ((text.dropWhile isBlank).reverse.dropWhile isBlank).reverse

end BrokenLinks.Character
