import LS8.Fault
import LS8.Listing

/-!
# Events

What happens while a program is read, loaded and run, in the order in which it happens.  An event
carries its data; its level, its origin and its wording are functions of it.
-/

namespace LS8

open Text

/-- How much an event matters, from errors down to single steps. -/
inductive Level where
  /-- Something failed. -/
  | error
  /-- Something stopped short. -/
  | warn
  /-- A stage of a run. -/
  | info
  /-- A detail of a run. -/
  | debug
  /-- A single effect of a single step. -/
  | trace
  deriving DecidableEq, Repr

namespace Level

/-- The place of a level when the severest comes first. -/
def rank : Level → Nat
  | error => 0
  | warn => 1
  | info => 2
  | debug => 3
  | trace => 4

/-- The name of a level at the head of a log line. -/
def label : Level → String
  | error => "ERROR"
  | warn => "WARN"
  | info => "INFO"
  | debug => "DEBUG"
  | trace => "TRACE"

/-- Down to level `l`, events of level `e` are logged. -/
def admits (l e : Level) : Bool :=
  decide (e.rank ≤ l.rank)

end Level

/-- What happened. -/
inductive Event where
  /-- The program in a file is about to be read. -/
  | loading (path : String)
  /-- A text was read as a program. -/
  | programParsed (bytes skipped : Nat)
  /-- A program was put into memory. -/
  | programLoaded (bytes : Nat)
  /-- An idle machine began to run. -/
  | clockStarted (pc : Nat)
  /-- An instruction is about to be executed. -/
  | decoded (pc : Nat) (instruction : Instruction)
  /-- A tick ended in a fault. -/
  | faulted (fault : Fault) (pc : Nat)
  /-- A halt was executed. -/
  | halted (pc : Nat) (ticks : UInt64)
  /-- The limit of ticks was reached before a halt. -/
  | tickLimitReached (ticks : UInt64)
  /-- An interrupt was made pending; `status` is the status register afterwards. -/
  | interruptRaised (number status : UInt8)
  /-- An interrupt was dispatched to the handler at `vector`. -/
  | interruptDispatched (line : Nat) (ret vector : UInt8)
  /-- A byte was pushed; `sp` is the stack pointer afterwards. -/
  | pushed (sp value : UInt8)
  /-- A byte was popped; `sp` is the stack pointer before. -/
  | popped (sp value : UInt8)
  deriving DecidableEq, Repr

namespace Event

/-- The level of an event. -/
def level : Event → Level
  | loading _ | programLoaded _ | clockStarted _ | halted .. => .info
  | tickLimitReached _ => .warn
  | programParsed .. | decoded .. | faulted .. => .debug
  | interruptRaised .. | interruptDispatched .. | pushed .. | popped .. => .trace

/-- The part of the program that reports an event. -/
def origin : Event → String
  | loading _ => "ls8"
  | programParsed .. => "ls8_core::sim::loader"
  | programLoaded _ | tickLimitReached _ => "ls8_core::sim::simulator"
  | clockStarted _ | decoded .. | faulted .. | halted .. => "ls8_core::core::cpu::execution"
  | interruptRaised .. | interruptDispatched .. => "ls8_core::core::cpu::trap"
  | pushed .. | popped .. => "ls8_core::core::cpu::memory"

/-- What happened, in words and without the fields. -/
def summary : Event → String
  | loading _ => "loading"
  | programParsed .. => "parsed program"
  | programLoaded _ => "program loaded"
  | clockStarted _ => "clock started"
  | decoded pc i => hexAddress pc ++ ": " ++ i.text
  | faulted fault _ => "fault: " ++ fault.message
  | halted .. => "halted"
  | tickLimitReached _ => "tick limit reached"
  | interruptRaised .. => "interrupt raised"
  | interruptDispatched .. => "interrupt dispatched"
  | pushed .. => "push"
  | popped .. => "pop"

/-- The data of an event that are written as fields, each under its name. -/
def fields : Event → List (String × String)
  | loading path => [("program", path)]
  | programParsed bytes skipped => [("bytes", decimal bytes), ("skipped", decimal skipped)]
  | programLoaded bytes => [("bytes", decimal bytes)]
  | clockStarted pc => [("pc", decimal pc)]
  | decoded .. => []
  | faulted _ pc => [("pc", decimal pc)]
  | halted pc ticks => [("pc", decimal pc), ("ticks", decimal ticks.toNat)]
  | tickLimitReached ticks => [("ticks", decimal ticks.toNat)]
  | interruptRaised number status =>
    [("number", decimal number.toNat), ("status", decimal status.toNat)]
  | interruptDispatched line ret vector =>
    [("line", decimal line), ("ret", decimal ret.toNat), ("vector", decimal vector.toNat)]
  | pushed sp value => [("sp", decimal sp.toNat), ("value", decimal value.toNat)]
  | popped sp value => [("sp", decimal sp.toNat), ("value", decimal value.toNat)]

/-- The wording of an event: what happened and then its fields. -/
def message (e : Event) : String :=
  e.summary ++ String.join (e.fields.map fun field => " " ++ field.1 ++ "=" ++ field.2)

/-- An event with its level. -/
def line (e : Event) : String :=
  e.level.label ++ " " ++ e.message

/-- An event with its level and its origin. -/
def lineWithOrigin (e : Event) : String :=
  e.level.label ++ " " ++ e.origin ++ ": " ++ e.message

end Event

end LS8
