import BrokenLinks.Bytes

/-! Control sequences, which command a terminal instead of being shown, and text without them.

A sequence starts with an escape character. What follows tells its kind, and the kind tells where
it ends. -/

set_option autoImplicit false

namespace BrokenLinks

inductive ControlState where
  | ground
  | character (left : Nat)
  | escape
  | escapeIntermediate
  | controlEntry
  | controlParameter
  | controlIntermediate
  | controlIgnored
  | deviceEntry
  | deviceParameter
  | deviceIntermediate
  | deviceIgnored
  | deviceText
  | systemText
  | privateText
  deriving DecidableEq, Repr

namespace ControlState

def isBetween (first last b : UInt8) : Bool :=
  first ≤ b && b ≤ last

def isIntermediate : UInt8 → Bool := isBetween 0x20 0x2F

def isParameter : UInt8 → Bool := isBetween 0x30 0x3B

def isMarker : UInt8 → Bool := isBetween 0x3C 0x3F

def isFinal : UInt8 → Bool := isBetween 0x40 0x7E

def next? (state : ControlState) (b : UInt8) : Option ControlState :=
  if b = 0x18 || b = 0x1A then some .ground
  else if b = 0x1B then some .escape
  else
    match state with
    | .ground => (Bytes.following? b).map fun (_, _, count) => .character count
    | .character left => some (if left ≤ 1 then .ground else .character (left - 1))
    | .escape =>
      if isIntermediate b then some .escapeIntermediate
      else if b = 0x50 then some .deviceEntry
      else if b = 0x5B then some .controlEntry
      else if b = 0x5D then some .systemText
      else if b = 0x58 || b = 0x5E || b = 0x5F then some .privateText
      else if isBetween 0x30 0x7E b then some .ground
      else none
    | .escapeIntermediate => if isBetween 0x30 0x7E b then some .ground else none
    | .controlEntry =>
      if isIntermediate b then some .controlIntermediate
      else if isParameter b || isMarker b then some .controlParameter
      else if isFinal b then some .ground
      else none
    | .controlParameter =>
      if isIntermediate b then some .controlIntermediate
      else if isMarker b then some .controlIgnored
      else if isFinal b then some .ground
      else none
    | .controlIntermediate =>
      if isParameter b || isMarker b then some .controlIgnored
      else if isFinal b then some .ground
      else none
    | .controlIgnored => if isFinal b then some .ground else none
    | .deviceEntry =>
      if isIntermediate b then some .deviceIntermediate
      else if isParameter b || isMarker b then some .deviceParameter
      else if isFinal b then some .deviceText
      else none
    | .deviceParameter =>
      if isIntermediate b then some .deviceIntermediate
      else if isMarker b then some .deviceIgnored
      else if isFinal b then some .deviceText
      else none
    | .deviceIntermediate =>
      if isParameter b || isMarker b then some .deviceIgnored
      else if isFinal b then some .deviceText
      else none
    | .deviceIgnored | .deviceText | .privateText => if b = 0x9C then some .ground else none
    | .systemText => if b = 0x07 then some .ground else none

def showsBlanks : ControlState → Bool
  | .ground | .escape | .escapeIntermediate => true
  | .controlEntry | .controlParameter | .controlIntermediate | .controlIgnored => true
  | _ => false

def isBlank (b : UInt8) : Bool :=
  b = 0x09 || b = 0x0A || b = 0x0C || b = 0x0D

def shows (state : ControlState) (b : UInt8) : Bool :=
  match state with
  | .ground => isBetween 0x20 0x7E b || isBlank b || (Bytes.following? b).isSome
  | .character _ => true
  | state => state.showsBlanks && isBlank b

end ControlState

structure ControlScan where
  state : ControlState
  /-- The last byte was shown. Bytes are then taken for text, whatever the state, until one
  comes that text does not have. -/
  showing : Bool

namespace ControlScan

def start : ControlScan := ⟨.ground, false⟩

/-- Takes one byte, and tells whether it is shown. A blank inside a sequence breaks it off, but
the sequence goes on after the text that follows. -/
def step (scan : ControlScan) (b : UInt8) : ControlScan × Bool :=
  let reached := if scan.showing then scan.state else (scan.state.next? b).getD scan.state
  match scan.state with
  | .character _ => (⟨(scan.state.next? b).getD scan.state, true⟩, true)
  | state =>
    if scan.showing || state.shows b then
      let reached := (ControlState.ground.next? b).getD reached
      if ControlState.ground.shows b then (⟨reached, true⟩, true)
      else (⟨(reached.next? b).getD reached, false⟩, false)
    else (⟨reached, false⟩, false)

def strip (scan : ControlScan) : Bytes → Bytes
  | [] => []
  | b :: bytes =>
    let (scan, shown) := scan.step b
    if shown then b :: strip scan bytes else strip scan bytes

end ControlScan

namespace Bytes

def withoutControls (bytes : Bytes) : Bytes :=
  ControlScan.start.strip bytes

end Bytes

end BrokenLinks
