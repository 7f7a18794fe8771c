import LS8.CommandLine.LogFilter
import LS8.Text.Alphanumeric
import LS8.Text.Blank

/-!
# Log settings

A setting is a list of directives with commas between them.  A directive is a level, which holds
for all events, or has the form `origin[span{field=value}]=level`, of which each part may be left
out.  A level is a name, in letters of either case, or a number from zero for `off` to five for
`trace`; where none is given, everything is logged.

No event of a machine happens within a span and no field is compared by its value, so directives
that ask for either are read and make no rule.  One directive that cannot be read makes the whole
setting void.  Without a valid setting, warnings and errors are logged.
-/

namespace LS8.CommandLine

open Text

/-- The levels by their names, each at the place that is its number; the first logs nothing. -/
def limits : List (String × Option Level) :=
  [("off", none), ("error", some .error), ("warn", some .warn), ("info", some .info),
    ("debug", some .debug), ("trace", some .trace)]

/-- The number that a decimal numeral stands for; a plus may stand before its digits. -/
def numeral? (cs : List Char) : Option Nat :=
  let digits :=
    match cs with
    | '+' :: rest => rest
    | _ => cs
  if digits.isEmpty || !digits.all Char.isDigit then none
  else some (digits.foldl (fun n c => 10 * n + (c.toNat - '0'.toNat)) 0)

/-- The level down to which events are logged, if any are, given as a number or a name. -/
def limitOf? (cs : List Char) : Option (Option Level) :=
  let entry :=
    match numeral? cs with
    | some n => limits[n]?
    | none => limits.find? fun entry => entry.1.toList == cs.map Char.toLower
  entry.map fun entry => entry.2

/-- A directive. -/
structure Directive where
  /-- How the origin of an event begins, if that matters. -/
  origin : Option String := none
  /-- The directive asks for a span or for the value of a field. -/
  narrowed : Bool := false
  /-- The name of a field of the event, if that matters. -/
  field : Option String := none
  /-- The level down to which events are logged, if any are. -/
  limit : Option Level := some .trace
  deriving DecidableEq, Repr

namespace Directive

/-- The rule that a directive makes, if it makes one. -/
def rule? (d : Directive) : Option Rule :=
  if d.narrowed then none else some ⟨d.origin, d.field, d.limit⟩

/-- The directive with a level, if one is written. -/
def withLimit (d : Directive) (level : List Char) : Option Directive :=
  if level.isEmpty then some d else (limitOf? level).map fun limit => { d with limit := limit }

/-- The directive with a field, of which a value may be written. -/
def withField (d : Directive) (field : List Char) : Directive :=
  { d with
    narrowed := d.narrowed || field.contains '='
    field := some (String.ofList (field.takeWhile (· != '='))) }

/-! The characters that divide a directive are looked for in `ahead`, which is what is left of it
without the white space at its two ends.  The parts between them are cut out of the whole text, in
which `place` characters have been passed.  So white space ahead of a directive shifts its parts,
and white space after it belongs to the last one. -/

/-- The directive whose brackets have been closed. -/
def closed (d : Directive) (text : List Char) (place : Nat) : List Char → Option Directive
  | [] => some d
  | '=' :: _ => d.withLimit (text.drop (place + 1))
  | _ => none

/-- The directive whose braces have been opened. -/
def inBraces (d : Directive) (text : List Char) (place : Nat) (ahead : List Char) :
    Option Directive :=
  let size := (ahead.takeWhile (· != '\x7d')).length
  match size, ahead.drop size with
  | 0, _ => none
  | _, '\x7d' :: ']' :: rest =>
    (d.withField ((text.drop place).take size)).closed text (place + size + 2) rest
  | _, _ => none

/-- The directive whose brackets have been opened. -/
def inBrackets (d : Directive) (text : List Char) (place : Nat) (ahead : List Char) :
    Option Directive :=
  let size := (ahead.takeWhile fun c => c != ']' && c != '\x7b').length
  match ahead.drop size with
  | ']' :: rest => closed { d with narrowed := true } text (place + size + 1) rest
  | '\x7b' :: rest => inBraces { d with narrowed := 0 < size } text (place + size + 1) rest
  | _ => none

/-- A directive may begin with this character. -/
def mayBegin (c : Char) : Bool :=
  c == '-' || c == ':' || c == '_' || isAlphanumeric c

/-- The directive that begins with a word. -/
def ofWord (text ahead : List Char) : Option Directive :=
  let size := (ahead.takeWhile fun c => c != '=' && c != '[').length
  let origin := some (String.ofList (text.take size))
  match ahead.drop size with
  | '=' :: _ => withLimit { origin } (text.drop (size + 1))
  | '[' :: rest => inBrackets { origin } text (size + 1) rest
  | _ =>
    match limitOf? text with
    | some limit => some { limit }
    | none => some { origin := some (String.ofList text) }

/-- The directive in a text. -/
def parse? (text : List Char) : Option Directive :=
  match trim text with
  | [] => none
  | '[' :: rest => inBrackets {} text 1 rest
  | c :: rest => if mayBegin c then ofWord text (c :: rest) else none

end Directive

/-- The pieces of a text between the commas. -/
def pieces : List Char → List (List Char)
  | [] => [[]]
  | ',' :: rest => [] :: pieces rest
  | c :: rest =>
    match pieces rest with
    | [] => [[c]]
    | piece :: more => (c :: piece) :: more

namespace LogFilter

/-- The filter that a setting describes.  Pieces without a character are passed over. -/
def parse? (text : String) : Option LogFilter :=
  let written := (pieces text.toList).filter fun piece => !piece.isEmpty
  (written.mapM Directive.parse?).map fun directives => ⟨directives.filterMap Directive.rule?⟩

/-- The filter that a setting asks for, if there is one. -/
def ofSetting (setting : Option String) : LogFilter :=
  (setting.bind parse?).getD (downTo (some .warn))

end LogFilter

end LS8.CommandLine
