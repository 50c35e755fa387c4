import BrokenLinks.Log.Directive

/-! The filter that chooses which records are shown.

A record is shown by the most specific directive for where it comes from, or by a directive for
one of the activities that it is part of. -/

set_option autoImplicit false

namespace BrokenLinks

structure LogFilter where
  directives : List Directive

namespace LogFilter

def add (filter : LogFilter) (directive : Directive) : LogFilter :=
  ⟨directive :: filter.directives⟩

/-- Of directives about the same, the last one given. -/
def inForce (filter : LogFilter) : List Directive :=
  filter.directives.eraseDupsBy (·.subject == ·.subject)

/-- Longer scopes are more specific, then conditions. -/
def isAsSpecific (first second : Directive) : Bool :=
  let scope (directive : Directive) := directive.subject.scope?.elim 0 (·.utf8ByteSize + 1)
  let conditions (directive : Directive) := directive.subject.conditions.length
  scope second < scope first ||
    scope second == scope first && conditions second ≤ conditions first

def threshold (filter : LogFilter) (record : Record) : Threshold :=
  let covering := filter.inForce.filter (·.subject.coversRecord record)
  ((covering.mergeSort isAsSpecific).head?.map (·.threshold)).join

/-- The most verbose level that matters. A directive that was replaced counts still, and one
about values needs every activity. -/
def horizon (filter : LogFilter) : Threshold :=
  if filter.directives.any (·.subject.namesValue) then some .trace
  else (filter.directives.map (·.threshold)).foldl Threshold.max none

def grant (filter : LogFilter) (activity : Activity) : Threshold :=
  if filter.horizon.admits activity.level then
    let met := filter.inForce.filter (·.subject.isMetBy activity)
    (met.map (·.threshold)).foldl Threshold.max none
  else none

def shows (filter : LogFilter) (entry : LogEntry) : Bool :=
  (filter.threshold entry.record).admits entry.record.level ||
    entry.activities.any fun activity => (filter.grant activity).admits entry.record.level

end LogFilter

end BrokenLinks
