import BrokenLinks.Command.Options
import BrokenLinks.Decimal
import BrokenLinks.Log.Filter

/-! What the command takes from the pairs of its environment. -/

set_option autoImplicit false

namespace BrokenLinks.Command

structure Environment where
  logDirectives : String
  forceColour? : Option String

structure LogSettings where
  filter : LogFilter
  refused : List (String × DirectiveError)

namespace Environment

def ofVariables (pairs : List (String × String)) : Environment where
  logDirectives := (pairs.lookup "RUST_LOG").getD ""
  forceColour? := pairs.lookup "FORCE_COLOR"

/-- Output is coloured only on demand. A demand that is neither a truth value nor a number is
one to colour. -/
def colour (environment : Environment) : Bool :=
  match environment.forceColour? with
  | none | some "false" => false
  | some "true" | some "" => true
  | some level =>
    match Decimal.read level.toList with
    | .ok number => number > 0
    | .error _ => true

end Environment

namespace Options

def level (options : Options) : Level :=
  match options.verbosity with
  | 0 => .warn
  | 1 => .info
  | 2 => .debug
  | _ => .trace

/-- Directives stand between commas. The level for all records is that of the options. -/
def logSettings (options : Options) (environment : Environment) : LogSettings :=
  let pieces := ((environment.logDirectives.toList.splitOn ',').filter (!·.isEmpty)).map
    String.ofList
  let read := pieces.map fun piece => (piece, Directive.ofString piece)
  let directives := read.filterMap (·.2.toOption)
  { filter := (directives.foldl LogFilter.add ⟨[]⟩).add ⟨.everything, some options.level⟩
    refused := read.filterMap fun
      | (piece, .error cause) => some (piece, cause)
      | _ => none }

end Options

namespace LogSettings

def complaints (settings : LogSettings) : String :=
  String.join (settings.refused.map fun (text, cause) =>
    "ignoring `" ++ text ++ "`: " ++ cause.message ++ "\n")

end LogSettings

end BrokenLinks.Command
