import BrokenLinks.Pattern.Reader

/-! Reading classes, which name sets of characters between brackets.

A class holds characters, ranges, named sets and other classes, and it may combine several such
unions from left to right. -/

set_option autoImplicit false

namespace BrokenLinks

inductive SetOperation where
  | intersection
  | difference
  | symmetricDifference
  deriving DecidableEq, Repr

structure NestedSet where
  set : CharSet
  depth : Nat

structure SetUnion where
  set : CharSet
  members : Nat
  depth : Nat

abbrev PendingSet := Option (NestedSet × SetOperation)

namespace SetOperation

def apply : SetOperation → CharSet → CharSet → CharSet
  | .intersection => .intersection
  | .difference => .difference
  | .symmetricDifference => .symmetricDifference

end SetOperation

namespace SetUnion

def start : SetUnion := ⟨.empty, 0, 0⟩

def add (union : SetUnion) (part : NestedSet) : SetUnion :=
  ⟨union.set.union part.set, union.members + 1, max union.depth part.depth⟩

def addSet (union : SetUnion) (set : CharSet) : SetUnion :=
  union.add ⟨set, 0⟩

def close (union : SetUnion) : NestedSet :=
  ⟨union.set, if union.members ≤ 1 then union.depth else union.depth + 1⟩

end SetUnion

namespace PendingSet

/-- The combination of what is pending with its right side. -/
def close (mode : PatternMode) (pending : PendingSet) (union : SetUnion) : NestedSet :=
  let right := union.close
  match pending with
  | none => right
  | some (left, operation) =>
    ⟨operation.apply (mode.cased left.set) (mode.cased right.set),
      max left.depth right.depth + 1⟩

end PendingSet

namespace PatternReader

def classAtom (mode : PatternMode) : PatternReader Escaped := do
  match ← next with
  | '\\' => escaped mode
  | c => return .char c

def atomSet (mode : PatternMode) : Escaped → PatternReader CharSet
  | .char c => ofOption (mode.checked? (.single c))
  | .set set => return set
  | .look _ => failure

/-- A member of a class, or the range from it to another. A dash is a member of its own at the end
of the class, and two of them are an operation. -/
def classItem (mode : PatternMode) : PatternReader CharSet := do
  let first ← classAtom mode
  skip mode
  match ← rest with
  | [] => failure
  | '-' :: following =>
    match mode.glance following with
    | some ']' | some '-' => atomSet mode first
    | _ =>
      setRest (mode.clear following)
      match first, ← classAtom mode with
      | .char first, .char last =>
        if first ≤ last then ofOption (mode.checked? (.range first last)) else failure
      | _, _ => failure
  | _ => atomSet mode first

/-- A set by its name between colons, if that is what comes after a bracket. A class may start in
the same way. -/
def namedSet? (mode : PatternMode) (text : List Char) :
    Option (Option CharSet × List Char) :=
  match text with
  | ':' :: text =>
    let negated := text.head? == some '^'
    let name := (if negated then text.drop 1 else text).takeWhile (· != ':')
    match text.drop (name.length + if negated then 1 else 0) with
    | ':' :: ']' :: rest =>
      (PatternMode.named? (String.ofList name)).map fun set =>
        (mode.negated? negated (mode.cased set), rest)
    | _ => none
  | _ => none

def openingDashes (mode : PatternMode) (union : SetUnion) : Nat → PatternReader SetUnion
  | 0 => return union
  | most + 1 => do
    if ← past? "-" then
      skip mode
      openingDashes mode (union.addSet (.single '-')) most
    else return union

/-- What comes after the bracket that opens a class: perhaps a sign that the class is negated, and
then what stands for itself only here, dashes or else a closing bracket. -/
def classOpening (mode : PatternMode) : PatternReader (Bool × SetUnion) := do
  skip mode
  let negated ← past? "^"
  skip mode
  let union ← openingDashes mode .start (← rest).length
  if union.members = 0 && (← past? "]") then
    return (negated, union.addSet (.single ']'))
  else return (negated, union)

def operation? : PatternReader (Option SetOperation) := do
  if ← past? "&&" then return some .intersection
  else if ← past? "--" then return some .difference
  else if ← past? "~~" then return some .symmetricDifference
  else return none

/-- The rest of a class, past the bracket that closes it. `most` bounds the members to come, those
of inner classes included. -/
def classRest (mode : PatternMode) (negated : Bool) (pending : PendingSet) (union : SetUnion) :
    Nat → PatternReader NestedSet
  | 0 => failure
  | most + 1 => do
    skip mode
    match ← rest with
    | [] => failure
    | ']' :: rest =>
      setRest rest
      let part := pending.close mode union
      let set ← ofOption (mode.negated? negated (mode.cased part.set))
      return ⟨set, part.depth + 1⟩
    | '[' :: rest =>
      match namedSet? mode rest with
      | some (set?, rest) =>
        setRest rest
        classRest mode negated pending (union.addSet (← ofOption set?)) most
      | none =>
        setRest rest
        let (innerNegated, opening) ← classOpening mode
        let inner ← classRest mode innerNegated none opening most
        classRest mode negated pending (union.add inner) most
    | _ =>
      match ← operation? with
      | some operation =>
        classRest mode negated (some (pending.close mode union, operation)) .start most
      | none => classRest mode negated pending (union.addSet (← classItem mode)) most

def charClass (mode : PatternMode) : PatternReader NestedSet := do
  let (negated, opening) ← classOpening mode
  classRest mode negated none opening ((← rest).length + 1)

end PatternReader

end BrokenLinks
