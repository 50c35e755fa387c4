import BrokenLinks.Command.Options
import BrokenLinks.ControlSequence
import BrokenLinks.Decimal

/-! Ways in which a command line can be wrong. -/

set_option autoImplicit false

namespace BrokenLinks.Command

inductive IntervalError where
  | malformed (cause : DecimalError)
  | zero
  deriving DecidableEq, Repr

inductive UsageError where
  | unexpectedArgument (shown : String)
  | unexpectedValue (value : String) (switch : Switch)
  | conflict (first second : Argument)
  | repeated (argument : Argument)
  | missingValue (setting : Setting)
  | invalidFormat (value : String)
  | invalidInterval (value : String) (cause : IntervalError)
  | notText
  deriving DecidableEq, Repr

namespace IntervalError

def message : IntervalError → String
  | .malformed cause => cause.message
  | .zero => "number would be zero for non-zero type"

end IntervalError

namespace UsageError

/-- What was given must not command the terminal on which the message appears. -/
def quote (given : String) : String :=
  (Bytes.ofString given).withoutControls.lossy

def message : UsageError → String
  | .unexpectedArgument shown => s!"unexpected argument '{quote shown}' found"
  | .unexpectedValue value switch =>
    s!"unexpected value '{quote value}' for '{switch.display}' found; no more were expected"
  | .conflict first second =>
    s!"the argument '{first.display}' cannot be used with '{second.display}'"
  | .repeated argument => s!"the argument '{argument.display}' cannot be used multiple times"
  | .missingValue setting =>
    s!"a value is required for '{setting.display}' but none was supplied"
  | .invalidFormat value => s!"invalid value '{quote value}' for '{Setting.format.display}'"
  | .invalidInterval value cause =>
    s!"invalid value '{quote value}' for '{Setting.interval.display}': {cause.message}"
  | .notText => "invalid UTF-8 was detected in one or more arguments"

end UsageError

end BrokenLinks.Command
