import BrokenLinks.Pattern.Mode

/-! Reading from patterns as they are written: characters, escapes and flags. -/

set_option autoImplicit false

namespace BrokenLinks

inductive PatternError where
  | malformed
  /-- An edge of a word of any script was asked for, which is no place that a pattern knows. -/
  | wordEdge
  deriving DecidableEq, Repr

structure PatternReading where
  rest : List Char
  names : List (List Char)
  -- An edge of a word of any script was asked for.
  wordEdge : Bool

/-- Reads from a text and leaves what comes after it, or finds it malformed. -/
abbrev PatternReader := StateT PatternReading Option

inductive Escaped where
  | char (c : Char)
  | set (set : CharSet)
  | look (condition : Look)

namespace PatternError

def message : PatternError → String
  | .malformed => "error building NFA"
  | .wordEdge =>
    "unsupported regex feature for DFAs: cannot build DFAs for regexes with Unicode word " ++
      "boundaries; switch to ASCII word boundaries, or heuristically enable Unicode word " ++
      "boundaries or use a different regex engine"

end PatternError

namespace PatternReader

def ofOption {α : Type} (value : Option α) : PatternReader α :=
  StateT.lift value

def rest : PatternReader (List Char) :=
  return (← get).rest

def setRest (rest : List Char) : PatternReader Unit :=
  modify fun reading => { reading with rest }

def skip (mode : PatternMode) : PatternReader Unit := do
  setRest (mode.clear (← rest))

def next : PatternReader Char := do
  match ← rest with
  | [] => failure
  | c :: text => setRest text; return c

def past? (text : String) : PatternReader Bool := do
  let rest ← rest
  if text.toList.isPrefixOf rest then
    setRest (rest.drop text.length)
    return true
  else return false

def hexDigit? (c : Char) : Option Nat :=
  let lower := c.toLower
  if lower.isDigit then some (lower.toNat - '0'.toNat)
  else if 'a' ≤ lower && lower ≤ 'f' then some (lower.toNat - 'a'.toNat + 10)
  else none

def hexNumber (mode : PatternMode) (value : Nat) : Nat → PatternReader Nat
  | 0 => return value
  | digits + 1 => do
    skip mode
    hexNumber mode (16 * value + (← ofOption (hexDigit? (← next)))) digits

def codePoint (mode : PatternMode) (digits : Nat) : PatternReader Char := do
  let value ← hexNumber mode 0 digits
  if value.isValidChar then return Char.ofNat value else failure

/-- Two digits stand for a byte, which is a character in ASCII only. -/
def byte (mode : PatternMode) : PatternReader Char := do
  let c ← codePoint mode 2
  if mode.everyScript || c.toNat < 0x80 then return c else failure

def category (mode : PatternMode) (negated : Bool) : PatternReader Escaped := do
  skip mode
  let set ← ofOption (PatternMode.category? (← next).toUpper)
  if mode.everyScript then .set <$> ofOption (mode.negated? negated (mode.cased set))
  else failure

def wordLook (mode : PatternMode) (look : Look) : PatternReader Escaped := do
  if mode.everyScript then
    modify fun reading => { reading with wordEdge := true }
  return .look look

/-- What comes after a backslash. Every mark of ASCII may be escaped, letters and digits only if
they have a meaning. -/
def escaped (mode : PatternMode) : PatternReader Escaped := do
  match ← next with
  | 'd' => return .set mode.digits
  | 'D' => .set <$> ofOption (mode.negated? true mode.digits)
  | 's' => return .set mode.blanks
  | 'S' => .set <$> ofOption (mode.negated? true mode.blanks)
  | 'w' => return .set mode.wordParts
  | 'W' => .set <$> ofOption (mode.negated? true mode.wordParts)
  | 'p' => category mode false
  | 'P' => category mode true
  | 'x' => .char <$> byte mode
  | 'u' => .char <$> codePoint mode 4
  | 'U' => .char <$> codePoint mode 8
  | 'a' => return .char '\x07'
  | 'f' => return .char '\x0c'
  | 'n' => return .char '\n'
  | 'r' => return .char '\r'
  | 't' => return .char '\t'
  | 'v' => return .char '\x0b'
  | 'A' => return .look .textStart
  | 'z' => return .look .textEnd
  | 'b' => wordLook mode .wordEdge
  | 'B' => wordLook mode .noWordEdge
  | '<' => wordLook mode .wordStart
  | '>' => wordLook mode .wordEnd
  | c => if c.toNat < 0x80 && !c.isAlphanum then return .char c else failure

/-- Letters for what is to hold in a group and, after a dash, for what is not, up to a colon or a
parenthesis, which is the second part of the answer. None may come twice. -/
def flags (mode : PatternMode) (value : Bool) (given : List Char) :
    Nat → PatternReader (PatternMode × Char)
  | 0 => failure
  | most + 1 => do
    let c ← next
    if c == ':' || c == ')' then
      if given.head? == some '-' || c == ')' && given.isEmpty then failure
      else return (mode, c)
    else if given.contains c then failure
    else if c == '-' then flags mode false (c :: given) most
    else flags (← ofOption (mode.set? value c)) value (c :: given) most

def isNamePart (first : Bool) (c : Char) : Bool :=
  c == '_' || if first then Character.nameLetters.contains c
    else ['.', '[', ']'].contains c || Character.nameParts.contains c

/-- The name of a group, which has no influence on what is accepted, but must be new. -/
def groupName : PatternReader Unit := do
  let rest ← rest
  let name := rest.takeWhile (· != '>')
  match name, rest.drop name.length with
  | first :: others, _ :: rest =>
    let names := (← get).names
    if isNamePart true first && others.all (isNamePart false) && !names.contains name then
      modify fun reading => { reading with rest, names := name :: names }
    else failure
  | _, _ => failure

end PatternReader

end BrokenLinks
