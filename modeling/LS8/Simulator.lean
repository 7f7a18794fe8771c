import LS8.Clock
import LS8.Machine.Tick
import LS8.Program

/-!
# The simulator

A machine with a clock and a limit of ticks.  `load` builds one from a program and a
configuration; a run ticks until the machine has halted, has faulted or has used up its limit.
The limit is looked at before each tick and after the halt, so a program that halts on the last
tick allowed has halted.
-/

namespace LS8

/-- How a run ended that no fault ended. -/
inductive Exit where
  /-- The machine has halted. -/
  | halted
  /-- The limit of ticks was used up first. -/
  | tickLimit
  deriving DecidableEq, Repr

/-- Why a simulator could not be built. -/
inductive BuildError where
  /-- The configuration was refused. -/
  | config (e : ConfigError)
  /-- The program was refused. -/
  | load (e : LoadError)
  deriving DecidableEq, Repr

/-- The wording of a build error. -/
def BuildError.message : BuildError → String
  | .config e => e.message
  | .load e => e.message

/-- A machine that is run under a clock and a limit of ticks. -/
structure Simulator where
  /-- The machine. -/
  machine : Machine
  /-- What paces the ticks. -/
  clock : Clock
  /-- How many ticks the machine may have had when it gets another. -/
  maxTicks : Option UInt64
  deriving DecidableEq

namespace Simulator

/-- A simulator over a memory that has been filled already. -/
def ofRam (ram : Ram) (c : Config) (output : Output) : Simulator where
  machine := .initial ram c.stackTop c.tracing output
  clock := .ofConfig c
  maxTicks := c.maxTicks

/-- Applies a change to the machine. -/
def withMachine (s : Simulator) (m : Machine) : Simulator :=
  { s with machine := m }

/-- Performs an action on the machine. -/
def perform {α : Type} (s : Simulator) (x : Action α) : Except Fault α × Simulator :=
  let performed := s.machine.perform x
  (performed.1, { s with machine := performed.2 })

/-- One tick of the machine, for which the clock is not asked. -/
def tick (s : Simulator) : Except Fault Unit × Simulator :=
  s.perform Machine.tick

/-- Records an event. -/
def emit (s : Simulator) (e : Event) : Simulator :=
  (s.perform (Machine.emit e)).2

/-- A simulator with a program in a memory of its own. -/
def load (program : List UInt8) (c : Config) (output : Output) : Except BuildError Simulator :=
  match c.validate with
  | .error e => .error (.config e)
  | .ok () =>
    match (Ram.zeroed c.ramSize).loadProgram program with
    | (_, .error e) => .error (.load e)
    | (ram, .ok count) => .ok ((ofRam ram c output).emit (.programLoaded count))

/-- The limit of ticks is used up. -/
def limitReached (s : Simulator) : Bool :=
  match s.maxTicks with
  | none => false
  | some limit => decide (limit ≤ s.machine.statistics.ticks)

/-- How the run has ended, if it has. -/
def exit? (s : Simulator) : Option Exit :=
  if s.machine.isHalted then some .halted
  else if s.limitReached then some .tickLimit
  else none

/-- The simulator after a run that ended in the given way. -/
def close (s : Simulator) : Exit → Simulator
  | .halted => s
  | .tickLimit => s.emit (.tickLimitReached s.machine.statistics.ticks)

/-- Ticks until the run has ended, at most `budget` times.  There is no answer if it would go
on. -/
def runFor : Nat → Simulator → Option (Except Fault Exit) × Simulator
  | budget, s =>
    match s.exit? with
    | some exit => (some (.ok exit), s.close exit)
    | none =>
      match budget with
      | 0 => (none, s)
      | budget + 1 =>
        match s.tick with
        | (.ok (), s') => runFor budget s'
        | (.error fault, s') => (some (.error fault), s')

/-- Starts the machine and ticks until the run has ended, at most `budget` times. -/
def run (budget : Nat) (s : Simulator) : Option (Except Fault Exit) × Simulator :=
  runFor budget (s.perform Machine.start).2

end Simulator

end LS8
