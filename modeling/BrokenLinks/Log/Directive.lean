import BrokenLinks.Log.Activity
import BrokenLinks.Pattern.GroupReader
import BrokenLinks.Pattern.Program

/-! Directives, which say what is shown of the records that they are about, and how they are
written: `scope[activity{field=pattern}]=level`, of which most parts may be left out. -/

set_option autoImplicit false

namespace BrokenLinks

structure FieldPattern where
  text : String
  /-- Truth values and numbers have none: they are no values of a field that holds text. -/
  pattern? : Option Pattern
  deriving DecidableEq, Repr

structure FieldCondition where
  name : String
  value? : Option FieldPattern
  deriving DecidableEq, Repr

structure DirectiveSubject where
  scope? : Option String
  activity? : Option String
  conditions : List FieldCondition
  deriving DecidableEq, Repr

structure Directive where
  subject : DirectiveSubject
  threshold : Threshold
  deriving DecidableEq, Repr

inductive DirectiveError where
  | malformed
  | level
  | condition (cause : PatternError)
  deriving DecidableEq, Repr

namespace DirectiveError

def message : DirectiveError → String
  | .malformed => "invalid filter directive"
  | .level =>
    "error parsing level filter: expected one of \"off\", \"error\", \"warn\", \"info\", " ++
      "\"debug\", \"trace\", or a number 0-5"
  | .condition cause => "invalid field filter: " ++ cause.message

end DirectiveError

namespace FieldPattern

def isFraction (text : List Char) : Bool :=
  let digits := text.filter (· != '.')
  !digits.isEmpty && digits.all Char.isDigit && text.length ≤ digits.length + 1

def unsigned (text : List Char) : List Char :=
  match text with
  | '+' :: rest | '-' :: rest => rest
  | _ => text

def isNumber (text : List Char) : Bool :=
  let magnitude := (unsigned text).map Char.toLower
  match magnitude.dropWhile (· != 'e') with
  | _ :: exponent =>
    let power := unsigned exponent
    isFraction (magnitude.takeWhile (· != 'e')) && !power.isEmpty && power.all Char.isDigit
  | [] =>
    isFraction magnitude ||
      ["inf", "infinity", "nan"].contains (String.ofList magnitude)

def ofText (text : List Char) : Except PatternError FieldPattern := do
  if text = "true".toList || text = "false".toList || isNumber text then
    return ⟨String.ofList text, none⟩
  else return ⟨String.ofList text, some (← Pattern.ofText text)⟩

def accepts (expected : FieldPattern) (value : String) : Bool :=
  expected.pattern?.any (·.accepts value.toList)

end FieldPattern

namespace FieldCondition

/-- A name, perhaps an equals sign and a value; a second equals sign ends the value. -/
def ofText (text : String) : Except DirectiveError FieldCondition :=
  match text.toList.splitOn '=' with
  | name :: value :: _ => do
    let value ← (FieldPattern.ofText value).mapError .condition
    return ⟨String.ofList name, some value⟩
  | _ => .ok ⟨text, none⟩

end FieldCondition

namespace DirectiveSubject

def everything : DirectiveSubject := ⟨none, none, []⟩

def hasScope (subject : DirectiveSubject) (origin : Origin) : Bool :=
  subject.scope?.all fun scope => scope.toList.isPrefixOf origin.path.toList

/-- Whether records are shown by where they come from. Every record has a message and no
other field. -/
def coversRecord (subject : DirectiveSubject) (record : Record) : Bool :=
  subject.activity?.isNone &&
    subject.conditions.all (fun condition => condition = ⟨"message", none⟩) &&
    subject.hasScope record.origin

def isAboutActivities (subject : DirectiveSubject) : Bool :=
  subject.activity?.isSome || !subject.conditions.isEmpty

def namesValue (subject : DirectiveSubject) : Bool :=
  subject.conditions.any (·.value?.isSome)

def covers (subject : DirectiveSubject) (activity : Activity) : Bool :=
  subject.isAboutActivities && subject.hasScope activity.origin &&
    subject.activity?.all (· == activity.name) &&
    subject.conditions.all fun condition => (activity.fields.lookup condition.name).isSome

def isMetBy (subject : DirectiveSubject) (activity : Activity) : Bool :=
  subject.covers activity && subject.conditions.all fun condition =>
    condition.value?.all fun expected =>
      (activity.fields.lookup condition.name).any expected.accepts

end DirectiveSubject

inductive DirectivePart where
  | nothing
  | scopeOrLevel (start : Nat)
  | activity (start : Nat)
  | condition (start : Nat)
  | conditionClosed
  | activityClosed
  | level (start : Nat)
  deriving DecidableEq, Repr

structure DirectiveReading where
  part : DirectivePart
  subject : DirectiveSubject

namespace DirectiveReading

def start : DirectiveReading := ⟨.nothing, .everything⟩

def isOpening (c : Char) : Bool :=
  Character.nameParts.contains c || c == '-' || c == ':' || c == '_'

/-- Takes the character at a position. `slice` gives the text between two positions. -/
def step (slice : Nat → Nat → String) (reading : DirectiveReading) (position : Nat)
    (c : Char) : Except DirectiveError DirectiveReading :=
  let subject := reading.subject
  match reading.part, c with
  | .nothing, '[' => .ok ⟨.activity (position + 1), subject⟩
  | .nothing, c =>
    if isOpening c then .ok ⟨.scopeOrLevel position, subject⟩ else .error .malformed
  | .scopeOrLevel start, '=' =>
    .ok ⟨.level (position + 1), { subject with scope? := some (slice start position) }⟩
  | .scopeOrLevel start, '[' =>
    .ok ⟨.activity (position + 1), { subject with scope? := some (slice start position) }⟩
  | .activity start, ']' =>
    .ok ⟨.activityClosed, { subject with activity? := some (slice start position) }⟩
  | .activity start, '\x7b' =>
    let name := slice start position
    .ok ⟨.condition (position + 1),
      { subject with activity? := if name.isEmpty then none else some name }⟩
  | .condition start, '\x7d' => do
    let text := slice start position
    if text.isEmpty then throw .malformed
    let conditions := subject.conditions ++ [← FieldCondition.ofText text]
    return ⟨.conditionClosed, { subject with conditions }⟩
  | .conditionClosed, ']' => .ok ⟨.activityClosed, subject⟩
  | .conditionClosed, _ => .error .malformed
  | .activityClosed, '=' => .ok ⟨.level (position + 1), subject⟩
  | .activityClosed, _ => .error .malformed
  | _, _ => .ok reading

def readAll (slice : Nat → Nat → String) (reading : DirectiveReading) (position : Nat) :
    List Char → Except DirectiveError DirectiveReading
  | [] => .ok reading
  | c :: text => do
    (← reading.step slice position c).readAll slice (position + c.utf8Size) text

def level (text : String) : Except DirectiveError Threshold :=
  if text.isEmpty then .ok (some .trace)
  else
    match Threshold.ofString? text with
    | some threshold => .ok threshold
    | none => .error .level

/-- What is left out lets through every level. A text alone is a level if it can be one. -/
def finish (rest : Nat → String) (reading : DirectiveReading) : Except DirectiveError Directive :=
  match reading.part with
  | .scopeOrLevel start =>
    match level (rest start) with
    | .ok threshold => .ok ⟨reading.subject, threshold⟩
    | .error _ => .ok ⟨{ reading.subject with scope? := some (rest start) }, some .trace⟩
  | .level start => return ⟨reading.subject, ← level (rest start)⟩
  | .activityClosed => .ok ⟨reading.subject, some .trace⟩
  | _ => .error .malformed

end DirectiveReading

namespace Directive

/-- Blanks around the text do not count, yet they shift the parts: positions are those of the
characters without the blanks, and parts are taken from the text with them. -/
def ofString (text : String) : Except DirectiveError Directive := do
  let bytes := Bytes.ofString text
  let slice (first last : Nat) := Bytes.lossy ((bytes.drop first).take (last - first))
  let reading ← DirectiveReading.start.readAll slice 0 (Character.trim text.toList)
  reading.finish fun first => Bytes.lossy (bytes.drop first)

end Directive

end BrokenLinks
