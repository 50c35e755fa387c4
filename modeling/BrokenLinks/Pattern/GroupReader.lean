import BrokenLinks.Pattern.ClassReader

/-! Reading whole patterns.

Most characters stand for themselves; the others group, repeat, choose, or name sets and places.
Repetitions are not counted: a brace opens nothing that could be closed. -/

set_option autoImplicit false

namespace BrokenLinks

structure NestedPattern where
  pattern : Pattern
  depth : Nat

/-- A part of a branch. Flags are a part, but none that can be repeated. -/
structure BranchItem where
  part : NestedPattern
  repeatable : Bool

namespace NestedPattern

def leaf (pattern : Pattern) : NestedPattern := ⟨pattern, 0⟩

def deeper (part : NestedPattern) (pattern : Pattern) : NestedPattern :=
  ⟨pattern, part.depth + 1⟩

def join (combine : List Pattern → Pattern) (parts : List NestedPattern) : NestedPattern :=
  let depth := parts.foldl (fun depth part => max depth part.depth) 0
  ⟨combine (parts.map (·.pattern)), if parts.length ≤ 1 then depth else depth + 1⟩

def sequenceOf (parts : List NestedPattern) : NestedPattern :=
  join (·.foldr .sequence .empty) parts

def choiceOf (branches : List NestedPattern) : NestedPattern :=
  join (fun
    | [] => .empty
    | first :: others => others.foldl .choice first) branches

end NestedPattern

namespace BranchItem

def ofPart (part : NestedPattern) : BranchItem := ⟨part, true⟩

def flags : BranchItem := ⟨.leaf .empty, false⟩

def join (items : List BranchItem) : NestedPattern :=
  .sequenceOf (items.reverse.map (·.part))

end BranchItem

namespace PatternReader

inductive Opening where
  | group (mode : PatternMode)
  | flags (mode : PatternMode)

def opening (mode : PatternMode) : PatternReader Opening := do
  skip mode
  if (← past? "?=") || (← past? "?!") || (← past? "?<=") || (← past? "?<!") then failure
  else if (← past? "?P<") || (← past? "?<") then
    groupName
    return .group mode
  else if ← past? "?" then
    let (inner, closing) ← flags mode true [] ((← rest).length + 1)
    return if closing == ':' then .group inner else .flags inner
  else return .group mode

def repetition (greedy : Bool) (pattern : Pattern) : Char → Pattern
  | '?' => .optional greedy pattern
  | '+' => .repeatedOnce greedy pattern
  | _ => .repeated greedy pattern

def item (mode : PatternMode) : Char → PatternReader NestedPattern
  | '\x7b' => failure
  | '[' => do
    let part ← charClass mode
    return ⟨.char part.set, part.depth⟩
  | '.' => .leaf <$> ofOption mode.dot?
  | '^' => return .leaf (.look mode.startAnchor)
  | '$' => return .leaf (.look mode.endAnchor)
  | '\\' => do
    match ← escaped mode with
    | .char c => return .leaf (mode.literal c)
    | .set set => return .leaf (.char set)
    | .look look => return .leaf (.look look)
  | c => return .leaf (mode.literal c)

/-- The rest of a group, of which some branches are complete and the next one has some items, both
with the latest first. `most` bounds the items to come, those of inner groups included. -/
def group (mode : PatternMode) (branches : List NestedPattern) (items : List BranchItem) :
    Nat → PatternReader NestedPattern
  | 0 => failure
  | most + 1 => do
    skip mode
    match ← rest with
    | [] | ')' :: _ => return .choiceOf (BranchItem.join items :: branches).reverse
    | c :: rest =>
      setRest rest
      match c with
      | '|' => group mode (BranchItem.join items :: branches) [] most
      | '*' | '+' | '?' =>
        let greedy := (← past? "?") == mode.lazy
        match items with
        | ⟨part, true⟩ :: earlier =>
          let repeated := part.deeper (repetition greedy part.pattern c)
          group mode branches (.ofPart repeated :: earlier) most
        | _ => failure
      | '(' =>
        match ← opening mode with
        | .flags mode => group mode branches (.flags :: items) most
        | .group inner =>
          let part ← group inner [] [] most
          if ← past? ")" then
            group mode branches (.ofPart (part.deeper part.pattern) :: items) most
          else failure
      | c => group mode branches (.ofPart (← item mode c) :: items) most

end PatternReader

namespace Pattern

def depthLimit : Nat := 250

/-- That a pattern asks for an edge of a word is an error only if there is no other. -/
def ofText (text : List Char) : Except PatternError Pattern :=
  match (PatternReader.group .start [] [] (text.length + 1)).run ⟨text, [], false⟩ with
  | some (part, ⟨[], _, wordEdge⟩) =>
    if depthLimit < part.depth then .error .malformed
    else if wordEdge then .error .wordEdge
    else .ok part.pattern
  | _ => .error .malformed

end Pattern

end BrokenLinks
