import BrokenLinks.Command.Usage

/-! Reading the arguments of the command, from left to right.

A setting without an attached value waits for the next argument that does not start with a
dash. Its value is examined only when the next known argument, or the end, is reached; an
argument that is not known ends the reading first. -/

set_option autoImplicit false

namespace BrokenLinks.Command

inductive Stop where
  | help (full : Bool)
  | version
  | usage (error : UsageError)
  deriving DecidableEq, Repr

def interval (text : List Char) : Except IntervalError Interval := do
  let value ← (Decimal.read text).mapError .malformed
  if positive : 0 < value then return ⟨value, positive⟩ else throw .zero

structure Reading where
  options : Options
  -- Without repetitions, the first one given first.
  given : List Argument
  pending : Option (Setting × Option Bytes)

namespace Reading

def start : Reading := ⟨.default, [], none⟩

def fail {α : Type} (error : UsageError) : Except Stop α :=
  .error (.usage error)

def give (reading : Reading) (argument : Argument) : Except Stop Reading :=
  if argument ∈ reading.given then fail (.repeated argument)
  else .ok { reading with given := reading.given ++ [argument] }

def setRoot (options : Options) (value : Bytes) : Except Stop Options :=
  if value.isEmpty then fail (.missingValue .root)
  else .ok { options with root := ⟨value⟩ }

def setInterval (options : Options) (value : Bytes) : Except Stop Options :=
  match value.text? with
  | none => fail .notText
  | some text =>
    match interval text.toList with
    | .ok interval => .ok { options with interval? := some interval }
    | .error cause => fail (.invalidInterval text cause)

def setFormat (options : Options) (value : Bytes) : Except Stop Options :=
  match value.lossy with
  | "table" => .ok { options with format := .table }
  | "json" => .ok { options with format := .json }
  | "" => fail (.missingValue .format)
  | other => fail (.invalidFormat other)

def set (setting : Setting) : Options → Bytes → Except Stop Options :=
  match setting with
  | .root => setRoot
  | .interval => setInterval
  | .format => setFormat

/-- Gives a setting its value. Whether there is one is examined first, then whether the setting
was given before, and what the value is last. -/
def assign (reading : Reading) (setting : Setting) : Option Bytes → Except Stop Reading
  | none => fail (.missingValue setting)
  | some value => do
    let reading ← reading.give (.setting setting)
    return { reading with options := ← set setting reading.options value }

def settle (reading : Reading) : Except Stop Reading :=
  match reading.pending with
  | none => .ok reading
  | some (setting, value) => { reading with pending := none }.assign setting value

def await (reading : Reading) (setting : Setting) : Except Stop Reading := do
  return { ← reading.settle with pending := some (setting, none) }

def attach (reading : Reading) (setting : Setting) (value : Bytes) : Except Stop Reading := do
  (← reading.settle).assign setting (some value)

def turnOn (reading : Reading) (full : Bool) (switch : Switch) : Except Stop Reading := do
  let reading ← reading.settle
  match switch with
  | .help => .error (.help full)
  | .version => .error .version
  | .verbose =>
    return { reading with
      options := { reading.options with verbosity := reading.options.verbosity + 1 } }
  | .dryRun =>
    let reading ← reading.give (.switch switch)
    return { reading with options := { reading.options with dryRun := true } }
  | .check =>
    let reading ← reading.give (.switch switch)
    return { reading with options := { reading.options with check := true } }
  | .parallel =>
    let reading ← reading.give (.switch switch)
    return { reading with options := { reading.options with parallel := true } }
  | .quiet =>
    let reading ← reading.give (.switch switch)
    return { reading with options := { reading.options with quiet := true } }

def equals : UInt8 := 61

def readNamed (reading : Reading) (text : Bytes) : Except Stop Reading :=
  let name := Bytes.lossy (text.takeWhile (· != equals))
  match Argument.ofName? name, text.dropWhile (· != equals) with
  | none, _ => fail (.unexpectedArgument ("--" ++ name))
  | some (.setting setting), [] => reading.await setting
  | some (.setting setting), _ :: value => reading.attach setting value
  | some (.switch switch), [] => reading.turnOn true switch
  | some (.switch switch), _ :: value => fail (.unexpectedValue (Bytes.lossy value) switch)

/-- What follows one dash: letters, the last of which may have a value attached. The value runs
to the end of the argument, over bytes that are not text, and may start after an equals sign. -/
def readLetters (reading : Reading) (invalid : Bytes) : List Char → Except Stop Reading
  | [] =>
    if invalid.isEmpty then .ok reading
    else fail (.unexpectedArgument ("-" ++ invalid.lossy))
  | letter :: letters =>
    match Argument.ofLetter? letter with
    | none => fail (.unexpectedArgument ("-" ++ letter.toString))
    | some (.switch switch) => do
      readLetters (← reading.turnOn false switch) invalid letters
    | some (.setting setting) =>
      match Bytes.ofString (String.ofList letters) ++ invalid with
      | [] => reading.await setting
      | first :: value =>
        reading.attach setting (if first = equals then value else first :: value)

def readValue (reading : Reading) (argument : Bytes) : Except Stop Reading :=
  match reading.pending with
  | some (setting, none) => .ok { reading with pending := some (setting, some argument) }
  | _ => fail (.unexpectedArgument argument.lossy)

@[match_pattern] def dash : UInt8 := 45

/-- After two dashes alone no argument is an option, and the command takes no others. -/
def readAll (reading : Reading) : List Bytes → Except Stop Reading
  | [] => reading.settle
  | argument :: arguments =>
    match argument with
    | [dash, dash] =>
      match arguments with
      | [] => reading.settle
      | next :: _ => fail (.unexpectedArgument next.lossy)
    | dash :: dash :: text => do (← reading.readNamed text).readAll arguments
    | dash :: next :: text => do
      let (letters, invalid) := Bytes.validStart (next :: text)
      (← reading.readLetters invalid letters).readAll arguments
    | value => do (← reading.readValue value).readAll arguments

/-- A check and a dry run exclude each other; the one given first is named first. -/
def finish (reading : Reading) : Except Stop Options :=
  let exclusive : List Argument := [.switch .check, .switch .dryRun]
  match reading.given.filter (· ∈ exclusive) with
  | first :: second :: _ => fail (.conflict first second)
  | _ => .ok reading.options

end Reading

namespace Options

def ofArguments (arguments : List Bytes) : Except Stop Options := do
  (← Reading.start.readAll arguments).finish

end Options

end BrokenLinks.Command
