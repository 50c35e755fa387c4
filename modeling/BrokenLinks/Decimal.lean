/-! Whole numbers of 64 bits, as they are given in arguments and in the environment. -/

set_option autoImplicit false

namespace BrokenLinks

inductive DecimalError where
  | empty
  | invalidDigit
  | tooLarge
  deriving DecidableEq, Repr

namespace Decimal

def bound : Nat := UInt64.size

/-- Stops at the first character that is no digit, or that takes the value past the bound. -/
def readFrom (value : Nat) : List Char → Except DecimalError Nat
  | [] => .ok value
  | c :: text =>
    if !c.isDigit then .error .invalidDigit
    else
      let next := 10 * value + (c.toNat - '0'.toNat)
      if next < bound then readFrom next text else .error .tooLarge

def read : List Char → Except DecimalError Nat
  | [] => .error .empty
  | ['+'] => .error .invalidDigit
  | '+' :: digits => readFrom 0 digits
  | digits => readFrom 0 digits

end Decimal

namespace DecimalError

def message : DecimalError → String
  | .empty => "cannot parse integer from empty string"
  | .invalidDigit => "invalid digit found in string"
  | .tooLarge => "number too large to fit in target type"

end DecimalError

end BrokenLinks
