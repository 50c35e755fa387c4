import BrokenLinks.Character.Basic
import BrokenLinks.Pattern.Basic

/-! How patterns are to be read, and what the parts of a pattern mean for that. -/

set_option autoImplicit false

namespace BrokenLinks

structure PatternMode where
  anyCase : Bool
  -- A dot is also for the end of a line.
  dotAll : Bool
  -- Anchors are for lines instead of the whole text.
  lines : Bool
  -- Lines may also end in carriage returns.
  carriage : Bool
  /-- Repetitions are short, and long only on demand. -/
  lazy : Bool
  /-- Named sets hold characters of every script, and not only of ASCII. -/
  everyScript : Bool
  -- Blanks and comments do not count.
  spaced : Bool
  deriving DecidableEq, Repr

namespace PatternMode

def start : PatternMode := ⟨false, false, false, false, false, true, false⟩

def set? (mode : PatternMode) (value : Bool) : Char → Option PatternMode
  | 'i' => some { mode with anyCase := value }
  | 's' => some { mode with dotAll := value }
  | 'm' => some { mode with lines := value }
  | 'R' => some { mode with carriage := value }
  | 'U' => some { mode with lazy := value }
  | 'u' => some { mode with everyScript := value }
  | 'x' => some { mode with spaced := value }
  | _ => none

/-- Without the letters of every script, only those of ASCII come in two cases. -/
def cased (mode : PatternMode) (set : CharSet) : CharSet :=
  if !mode.anyCase then set
  else if mode.everyScript then set.anyCase
  else set.anyAsciiCase

/-- Outside of ASCII a set of bytes would hold parts of characters, which are no text. -/
def checked? (mode : PatternMode) (set : CharSet) : Option CharSet :=
  if mode.everyScript || set.isAscii then some set else none

def negated? (mode : PatternMode) (negated : Bool) (set : CharSet) : Option CharSet :=
  mode.checked? (if negated then set.complement else set)

def asciiLetters : CharSet := .ofRanges [('A', 'Z'), ('a', 'z')]

def asciiDigits : CharSet := .range '0' '9'

def asciiWordParts : CharSet := .unionAll [asciiLetters, asciiDigits, .single '_']

def asciiBlanks : CharSet := .ofString "\t\n\x0b\x0c\r "

def digits (mode : PatternMode) : CharSet :=
  if mode.everyScript then Character.decimalDigits else asciiDigits

def blanks (mode : PatternMode) : CharSet :=
  if mode.everyScript then Character.blanks else asciiBlanks

def wordParts (mode : PatternMode) : CharSet :=
  if mode.everyScript then Character.wordParts else asciiWordParts

def category? : Char → Option CharSet
  | 'L' => some Character.letters
  | 'M' => some Character.marks
  | 'N' => some Character.numbers
  | 'P' => some Character.punctuation
  | 'S' => some Character.symbols
  | 'Z' => some Character.separators
  | 'C' => some Character.others
  | _ => none

def named? : String → Option CharSet
  | "alnum" => some (asciiLetters.union asciiDigits)
  | "alpha" => some asciiLetters
  | "ascii" => some .ascii
  | "blank" => some (.ofString "\t ")
  | "cntrl" => some (.ofRanges [('\x00', '\x1f'), ('\x7f', '\x7f')])
  | "digit" => some asciiDigits
  | "graph" => some (.range '!' '~')
  | "lower" => some (.range 'a' 'z')
  | "print" => some (.range ' ' '~')
  | "punct" => some (.ofRanges [('!', '/'), (':', '@'), ('[', '\x60'), ('\x7b', '~')])
  | "space" => some asciiBlanks
  | "upper" => some (.range 'A' 'Z')
  | "word" => some asciiWordParts
  | "xdigit" => some (.ofRanges [('0', '9'), ('A', 'F'), ('a', 'f')])
  | _ => none

def literal (mode : PatternMode) (c : Char) : Pattern :=
  .char (mode.cased (.single c))

def dot? (mode : PatternMode) : Option Pattern :=
  if !mode.everyScript then none
  else if mode.dotAll then some (.char CharSet.empty.complement)
  else if mode.carriage then some (.char (CharSet.ofString "\r\n").complement)
  else some (.char (CharSet.single '\n').complement)

def startAnchor (mode : PatternMode) : Look :=
  if !mode.lines then .textStart else if mode.carriage then .anyLineStart else .lineStart

def endAnchor (mode : PatternMode) : Look :=
  if !mode.lines then .textEnd else if mode.carriage then .anyLineEnd else .lineEnd

def dropSpace (comment : Bool) : List Char → List Char
  | [] => []
  | c :: text =>
    if comment then dropSpace (c != '\n') text
    else if Character.isBlank c then dropSpace false text
    else if c == '#' then dropSpace true text
    else c :: text

def clear (mode : PatternMode) (text : List Char) : List Char :=
  if mode.spaced then dropSpace false text else text

/-- The next character that is no blank. A number sign counts as one, once. -/
def glance (mode : PatternMode) (text : List Char) : Option Char :=
  if !mode.spaced then text.head?
  else
    let past :=
      match text.dropWhile Character.isBlank with
      | '#' :: rest => rest.dropWhile Character.isBlank
      | rest => rest
    past.head?.or text.head?

end PatternMode

end BrokenLinks
