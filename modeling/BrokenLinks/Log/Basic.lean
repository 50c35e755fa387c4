import BrokenLinks.Decimal

/-! Log records and how they are shown, and thresholds for their levels. -/

set_option autoImplicit false

namespace BrokenLinks

inductive Level where
  | error
  | warn
  | info
  | debug
  | trace
  deriving DecidableEq, Repr

inductive Origin where
  | links
  | files
  | listings
  | command
  deriving DecidableEq, Repr

structure Record where
  level : Level
  origin : Origin
  message : String
  deriving DecidableEq, Repr

structure Logged (α : Type) where
  records : List Record
  value : α

namespace Level

def name : Level → String
  | .error => "ERROR"
  | .warn => "WARN"
  | .info => "INFO"
  | .debug => "DEBUG"
  | .trace => "TRACE"

def verbosity : Level → Nat
  | .error => 1
  | .warn => 2
  | .info => 3
  | .debug => 4
  | .trace => 5

end Level

namespace Origin

def path : Origin → String
  | .links => "relink::domain::rewrite"
  | .files => "relink::storage::docs"
  | .listings => "relink::storage::namespace"
  | .command => "relink::cli"

end Origin

namespace Record

/-- Characters that a terminal would obey are spelled out. -/
def spell (c : Char) : List Char :=
  match c with
  | '\x07' => "\\x07".toList
  | '\x08' => "\\x08".toList
  | '\x0c' => "\\x0c".toList
  | '\x1b' => "\\x1b".toList
  | '\x7f' => "\\x7f".toList
  | c =>
    if 0x80 ≤ c.toNat && c.toNat ≤ 0x9F then
      "\\u\x7b".toList ++ Nat.toDigits 16 c.toNat ++ ['\x7d']
    else [c]

def text (record : Record) : String :=
  String.ofList (record.message.toList.flatMap spell)

end Record

/-- The most verbose level let through; `none` silences. -/
abbrev Threshold := Option Level

namespace Threshold

def verbosity (threshold : Threshold) : Nat :=
  threshold.elim 0 Level.verbosity

def admits (threshold : Threshold) (level : Level) : Bool :=
  level.verbosity ≤ threshold.verbosity

def max (first second : Threshold) : Threshold :=
  if first.verbosity < second.verbosity then second else first

def ofName? (name : String) : Option Threshold :=
  match name with
  | "off" => some none
  | "error" => some (some .error)
  | "warn" => some (some .warn)
  | "info" => some (some .info)
  | "debug" => some (some .debug)
  | "trace" => some (some .trace)
  | _ => none

def ofNumber? : Nat → Option Threshold
  | 0 => some none
  | 1 => some (some .error)
  | 2 => some (some .warn)
  | 3 => some (some .info)
  | 4 => some (some .debug)
  | 5 => some (some .trace)
  | _ => none

def ofString? (text : String) : Option Threshold :=
  match Decimal.read text.toList with
  | .ok number => ofNumber? number
  | .error _ => ofName? (String.ofList (text.toList.map Char.toLower))

end Threshold

end BrokenLinks
