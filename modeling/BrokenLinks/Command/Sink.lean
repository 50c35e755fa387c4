import BrokenLinks.Bytes

/-! Places that output goes to, a part at a time, and that may refuse it. -/

set_option autoImplicit false

namespace BrokenLinks.Command

structure OutputError where
  message : String
  deriving DecidableEq, Repr

structure Sink (σ : Type) where
  /-- Offered bytes, of which there is a first, the sink accepts that one and as many more as
  it tells; or it accepts none and fails. -/
  write : σ → UInt8 → Bytes → Except OutputError Nat × σ
  flush : σ → Except OutputError Unit × σ

namespace Sink

variable {σ : Type}

def writeAll (sink : Sink σ) (state : σ) : Bytes → Except OutputError Unit × σ
  | [] => (.ok (), state)
  | first :: rest =>
    match sink.write state first rest with
    | (.error error, state) => (.error error, state)
    | (.ok more, state) => sink.writeAll state (rest.drop more)
  termination_by bytes => bytes.length
  decreasing_by simp only [List.length_drop, List.length_cons]; omega

def writeText (sink : Sink σ) (state : σ) (text : String) : Except OutputError Unit × σ :=
  sink.writeAll state (Bytes.ofString text)

def collecting : Sink (Array UInt8) where
  write state first rest := (.ok rest.length, state.push first ++ rest)
  flush state := (.ok (), state)

-- Keeps what was accepted before it was full.
def full : Sink (Array UInt8) where
  write state _ _ := (.error ⟨"No space left on device (os error 28)"⟩, state)
  flush state := (.ok (), state)

end Sink

end BrokenLinks.Command
