import BrokenLinks.Character.Foldings

/-! Sets of characters, and the operations on them. -/

set_option autoImplicit false

namespace BrokenLinks

/-- A set is given by its bounds, in ascending order: its first character, the next one that does
not belong to it, the next one that does again, and so on. -/
structure CharSet where
  bounds : List Nat
  deriving DecidableEq, Repr

namespace CharSet

def hasCode (set : CharSet) (code : Nat) : Bool :=
  (set.bounds.takeWhile (· ≤ code)).length % 2 = 1

def contains (set : CharSet) (c : Char) : Bool :=
  set.hasCode c.toNat

/-- Walks along two lists of bounds, of which an odd or an even number has been passed, and keeps
the places at which the combination changes. -/
def sweep (combine : Bool → Bool → Bool) (first second : Bool) :
    List Nat → List Nat → List Nat
  | [], [] => []
  | x :: xs, [] =>
    let others := sweep combine (!first) second xs []
    if combine (!first) second = combine first second then others else x :: others
  | [], y :: ys =>
    let others := sweep combine first (!second) [] ys
    if combine first (!second) = combine first second then others else y :: others
  | x :: xs, y :: ys =>
    if x < y then
      let others := sweep combine (!first) second xs (y :: ys)
      if combine (!first) second = combine first second then others else x :: others
    else if y < x then
      let others := sweep combine first (!second) (x :: xs) ys
      if combine first (!second) = combine first second then others else y :: others
    else
      let others := sweep combine (!first) (!second) xs ys
      if combine (!first) (!second) = combine first second then others else x :: others
  termination_by xs ys => xs.length + ys.length

def union (first second : CharSet) : CharSet :=
  ⟨sweep (· || ·) false false first.bounds second.bounds⟩

def intersection (first second : CharSet) : CharSet :=
  ⟨sweep (· && ·) false false first.bounds second.bounds⟩

def difference (first second : CharSet) : CharSet :=
  ⟨sweep (fun x y => x && !y) false false first.bounds second.bounds⟩

def symmetricDifference (first second : CharSet) : CharSet :=
  ⟨sweep (· != ·) false false first.bounds second.bounds⟩

def complement (set : CharSet) : CharSet :=
  match set.bounds with
  | 0 :: bounds => ⟨bounds⟩
  | bounds => ⟨0 :: bounds⟩

def empty : CharSet := ⟨[]⟩

def unionAll (sets : List CharSet) : CharSet :=
  sets.foldl union empty

def range (first last : Char) : CharSet := ⟨[first.toNat, last.toNat + 1]⟩

def single (c : Char) : CharSet := range c c

def ofRanges (ranges : List (Char × Char)) : CharSet :=
  unionAll (ranges.map fun (first, last) => range first last)

def ofString (text : String) : CharSet :=
  unionAll (text.toList.map single)

def ascii : CharSet := range '\x00' '\x7f'

def isAscii (set : CharSet) : Bool :=
  set.difference ascii = empty

def boundsOfCodes : List Nat → List Nat
  | [] => []
  | code :: codes =>
    match boundsOfCodes codes with
    | [] => [code, code + 1]
    | first :: bounds =>
      if first = code then first :: bounds
      else if first = code + 1 then code :: bounds
      else code :: (code + 1) :: first :: bounds

def ofCodes (codes : List Nat) : CharSet :=
  ⟨boundsOfCodes (codes.mergeSort (· ≤ ·))⟩

def foldings : List (Nat × Nat) :=
  Character.foldingRuns.flatMap fun run => (List.range run.count).map fun i =>
    (run.first + i * run.stride, run.folded + i * run.stride)

def asciiFoldings : List (Nat × Nat) :=
  foldings.filter fun (code, folded) => code < 0x80 && folded < 0x80

/-- With each letter of the set all that fold to the same form. -/
def closedUnder (foldings : List (Nat × Nat)) (set : CharSet) : CharSet :=
  let met := foldings.filter fun (code, folded) => set.hasCode code || set.hasCode folded
  let folded := ofCodes (met.map (·.2))
  let variants := foldings.filter fun (_, form) => folded.hasCode form
  (set.union folded).union (ofCodes (variants.map (·.1)))

def anyCase : CharSet → CharSet := closedUnder foldings

def anyAsciiCase : CharSet → CharSet := closedUnder asciiFoldings

end CharSet

end BrokenLinks
