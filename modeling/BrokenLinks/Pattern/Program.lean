import BrokenLinks.Pattern.Basic

/-! Patterns as programs, and which texts they accept.

A program is run by many threads at once, in the order in which their matches are preferred. They
stay side by side in the text, so a run takes time in proportion to the text. -/

set_option autoImplicit false

namespace BrokenLinks

inductive Instruction where
  | char (set : CharSet)
  | look (condition : Look)
  | jump (target : Nat)
  | fork (preferred other : Nat)
  | accept
  deriving DecidableEq, Repr

abbrev Program := Array Instruction

namespace Instruction

def loop (greedy : Bool) (start stop : Nat) : Instruction :=
  if greedy then .fork start stop else .fork stop start

end Instruction

namespace Pattern

/-- Instructions that go on behind the last of them after a match; `start` is the position of the
first. A repetition that has matched nothing ends its loop, since it comes back to an instruction
that was passed at the same place of the text. -/
def instructions : Pattern → Nat → List Instruction
  | .empty, _ => []
  | .char set, _ => [.char set]
  | .look condition, _ => [.look condition]
  | .sequence first second, start =>
    let before := first.instructions start
    before ++ second.instructions (start + before.length)
  | .choice preferred other, start =>
    let before := preferred.instructions (start + 1)
    let between := start + before.length + 2
    let after := other.instructions between
    .fork (start + 1) between :: before ++ .jump (between + after.length) :: after
  | .repeated greedy pattern, start =>
    let body := pattern.instructions (start + 1)
    let test := Instruction.loop greedy (start + 1) (start + body.length + 2)
    test :: body ++ [test]
  | .repeatedOnce greedy pattern, start =>
    let body := pattern.instructions start
    body ++ [.loop greedy start (start + body.length + 1)]

def program (pattern : Pattern) : Program :=
  (pattern.instructions 0 ++ [Instruction.accept]).toArray

end Pattern

namespace Program

/-- Where threads come to stand that wait at a place in the text, those preferred first. No
instruction is passed twice, since the later thread would only follow the earlier. -/
def advance (program : Program) (before? after? : Option Char) :
    Nat → Array Bool → List Nat → List Nat
  | most + 1, passed, position :: waiting =>
    if passed.getD position true then advance program before? after? most passed waiting
    else
      let passed := passed.setIfInBounds position true
      match program[position]? with
      | some (.jump target) =>
        advance program before? after? most passed (target :: waiting)
      | some (.fork preferred other) =>
        advance program before? after? most passed (preferred :: other :: waiting)
      | some (.look condition) =>
        advance program before? after? most passed
          (if condition.holds before? after? then (position + 1) :: waiting else waiting)
      | _ => position :: advance program before? after? most passed waiting
  | _, _, _ => []

def standing (program : Program) (before? after? : Option Char) (waiting : List Nat) :
    List Nat :=
  advance program before? after? (waiting.length + 2 * program.size)
    (Array.replicate program.size false) waiting

def isAccepting (program : Program) (position : Nat) : Bool :=
  program[position]? == some .accept

def admits (program : Program) (c : Char) (position : Nat) : Bool :=
  match program[position]? with
  | some (.char set) => set.contains c
  | _ => false

/-- Whether the last match ends with the text. A match puts an end to the threads behind it and to
the `search` for later ones. Between the bytes of a character, too, the search can find a match,
though only an empty one, and to both sides it sees parts of that character. -/
def endsWithText (program : Program) (threads : List Nat) (search : Bool)
    (before? : Option Char) : List Char → Bool
  | [] =>
    (program.standing before? none (threads ++ if search then [0] else [])).any
      program.isAccepting
  | c :: text =>
    let standing :=
      program.standing before? (some c) (threads ++ if search then [0] else [])
    let preferred := standing.takeWhile (!program.isAccepting ·)
    let search := search && preferred.length = standing.length
    let inside := c.utf8Size > 1 &&
      (program.standing (some c) (some c) [0]).any program.isAccepting
    let moved := (preferred.filter (program.admits c)).map (· + 1)
    endsWithText program moved (search && !inside) (some c) text

end Program

namespace Pattern

/-- A text is accepted if its first match ends where the text does. It may start anywhere. -/
def accepts (pattern : Pattern) (text : List Char) : Bool :=
  pattern.program.endsWithText [] true none text

end Pattern

end BrokenLinks
