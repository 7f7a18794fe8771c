import LS8.Event
import LS8.Flags
import LS8.Ram
import LS8.Registers
import LS8.Statistics

/-!
# The machine

The whole state of a processor with its memory: registers, program counter, flags, memory, the
phase of its life and the interrupt enable, and beside them what a run leaves behind, which are
its statistics, its output and its journal of events.

What a machine does is an `Action`: a computation that changes a machine and either answers or
ends in a fault.  A fault undoes nothing, so the machine that it leaves behind shows how far the
action came.  This module has the actions that touch one part of the state each; the instructions
are put together from them.
-/

namespace LS8

/-- The phase of a machine's life. -/
inductive Phase where
  /-- Built, and no tick has run yet. -/
  | idle
  /-- Ticking. -/
  | running
  /-- Stopped for good. -/
  | halted
  deriving DecidableEq, Repr

/-- The name of a phase. -/
def Phase.text : Phase → String
  | .idle => "idle"
  | .running => "running"
  | .halted => "halted"

/-- Where execution goes on after an instruction. -/
inductive Flow where
  /-- At the instruction that follows in memory. -/
  | next
  /-- At the given address. -/
  | jump (target : Nat)
  /-- Nowhere. -/
  | halt
  deriving DecidableEq, Repr

/-- A processor with its memory and all that it did so far. -/
structure Machine where
  /-- The general-purpose registers. -/
  registers : Registers
  /-- The address of the next instruction. -/
  pc : Nat
  /-- The condition flags. -/
  flags : Flags
  /-- The memory. -/
  ram : Ram
  /-- The phase of life. -/
  phase : Phase
  /-- Pending interrupts are dispatched. -/
  interruptsEnabled : Bool
  /-- Every decoded instruction is recorded as an event. -/
  tracing : Bool
  /-- The counters. -/
  statistics : Statistics
  /-- Where the program prints to. -/
  output : Output
  /-- The events so far, in order. -/
  journal : Array Event
  deriving DecidableEq

/-- A change of a machine that answers with an `α` or ends in a fault, whatever it did before. -/
abbrev Action : Type → Type := EStateM Fault Machine

namespace Machine

/-- An idle machine over a memory: everything zero but the stack pointer, interrupts enabled. -/
def initial (ram : Ram) (stackTop : UInt8) (tracing : Bool) (output : Output) : Machine where
  registers := .initial stackTop
  pc := 0
  flags := .none
  ram := ram
  phase := .idle
  interruptsEnabled := true
  tracing := tracing
  statistics := {}
  output := output
  journal := #[]

/-- The machine has stopped. -/
def isHalted (m : Machine) : Bool :=
  decide (m.phase = .halted)

/-- What an action answers on a machine, and the machine that it leaves behind. -/
def perform {α : Type} (m : Machine) (x : Action α) : Except Fault α × Machine :=
  match x m with
  | .ok a m' => (.ok a, m')
  | .error fault m' => (.error fault, m')

/-! ## Actions on one part of the state -/

/-- Records an event. -/
def emit (e : Event) : Action Unit :=
  modify fun m => { m with journal := m.journal.push e }

/-- Stops with a fault that is made from the program counter. -/
def faultAtPc {α : Type} (fault : Nat → Fault) : Action α := do
  throw (fault (← get).pc)

/-- The byte in a memory cell. -/
def readCell (address : Nat) : Action UInt8 := do
  MonadExcept.ofExcept ((← get).ram.read address)

/-- Stores a byte in a memory cell. -/
def writeCell (address : Nat) (v : UInt8) : Action Unit := do
  let ram ← MonadExcept.ofExcept ((← get).ram.write address v)
  modify fun m => { m with ram := ram }

/-- The contents of a register. -/
def readRegister (r : Register) : Action UInt8 := do
  return (← get).registers.read r

/-- Stores a byte in a register. -/
def writeRegister (r : Register) (v : UInt8) : Action Unit :=
  modify fun m => { m with registers := m.registers.write r v }

/-- Sets the condition flags. -/
def setFlags (f : Flags) : Action Unit :=
  modify fun m => { m with flags := f }

/-- Moves the program counter. -/
def setPc (address : Nat) : Action Unit :=
  modify fun m => { m with pc := address }

/-- Enters a phase of life. -/
def setPhase (phase : Phase) : Action Unit :=
  modify fun m => { m with phase := phase }

/-- Enables or disables the dispatch of interrupts. -/
def setInterrupts (enabled : Bool) : Action Unit :=
  modify fun m => { m with interruptsEnabled := enabled }

/-- Updates the counters. -/
def count (f : Statistics → Statistics) : Action Unit :=
  modify fun m => { m with statistics := f m.statistics }

/-- Prints a byte on a line of its own and says whether the output took it. -/
def print (v : UInt8) : Action (Except WriteFailure Unit) :=
  modifyGet fun m =>
    let printed := m.output.print v
    (printed.2, { m with output := printed.1 })

/-- The register that an operand byte names. -/
def operand (b : UInt8) : Action Register :=
  match Register.ofByte? b with
  | some r => pure r
  | none => faultAtPc (.invalidRegister b)

end Machine

end LS8
