import LS8.Event

/-!
# Log filters

A filter is a list of rules.  A rule speaks of the events whose origin begins in a given way and
that have a given field, or of all events if it asks for neither, and says down to which level
they are logged.  About an event the most specific rule decides that speaks of it: the one that
asks for the longest beginning, and among those one that asks for a field.  An event of which no
rule speaks is not logged.
-/

namespace LS8.CommandLine

/-- A rule about the events of some origins. -/
structure Rule where
  /-- How the origin begins, if that matters. -/
  origin : Option String
  /-- The name of a field that the event has, if that matters. -/
  field : Option String
  /-- The level down to which events are logged, if any are. -/
  limit : Option Level
  deriving DecidableEq, Repr

namespace Rule

/-- The rule speaks of the event.  The wording of an event counts as a field of its own. -/
def appliesTo (r : Rule) (e : Event) : Bool :=
  (r.origin.all fun origin => origin.toList.isPrefixOf e.origin.toList)
    && r.field.all fun field => field == "message" || e.fields.any fun entry => entry.1 == field

/-- How much of an origin the rule asks for; nothing comes before the empty beginning. -/
def originLength (r : Rule) : Nat :=
  match r.origin with
  | none => 0
  | some origin => origin.length + 1

/-- A rule that asks for the field `b` is at least as specific as one that asks for `a`: no field
comes first, and then the names in their order. -/
def fieldAtMost : Option String → Option String → Bool
  | none, _ => true
  | some _, none => false
  | some a, some b => decide (a ≤ b)

/-- Rule `r` is at most as specific as rule `s`. -/
def atMost (r s : Rule) : Bool :=
  if r.originLength = s.originLength then fieldAtMost r.field s.field
  else decide (r.originLength < s.originLength)

end Rule

/-- Which events are logged. -/
structure LogFilter where
  /-- The rules.  Of two rules that ask for the same, the later counts. -/
  rules : List Rule
  deriving DecidableEq, Repr

namespace LogFilter

/-- Logs all events down to a level, or none at all. -/
def downTo (limit : Option Level) : LogFilter :=
  ⟨[⟨none, none, limit⟩]⟩

/-- The more specific of two rules, the second if neither is. -/
def moreSpecific (best : Option Rule) (r : Rule) : Rule :=
  match best with
  | none => r
  | some b => if b.atMost r then r else b

/-- The rule that decides about an event. -/
def ruleFor? (f : LogFilter) (e : Event) : Option Rule :=
  (f.rules.filter fun r => r.appliesTo e).foldl (fun best r => some (moreSpecific best r)) none

/-- The event is logged. -/
def admits (f : LogFilter) (e : Event) : Bool :=
  match f.ruleFor? e with
  | none => false
  | some r => r.limit.any fun limit => limit.admits e.level

/-- The events that are logged. -/
def admitted (f : LogFilter) (es : List Event) : List Event :=
  es.filter f.admits

end LogFilter

end LS8.CommandLine
