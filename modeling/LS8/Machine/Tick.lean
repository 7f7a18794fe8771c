import LS8.Machine.Execute

/-!
# Ticks and runs

One tick dispatches an interrupt if one is due, fetches three bytes, decodes and executes the
instruction among them and moves the program counter.  A fault anywhere in it halts the machine
where it stands.  A run ticks until the machine has halted; since a program need not halt, a run
takes the number of ticks that it may spend and says whether it came to an end within them.
-/

namespace LS8.Machine

/-- Sets an idle machine running; no other machine is changed. -/
def start : Action Unit := do
  let m ← get
  if m.phase = .idle then
    setPhase .running
    emit (.clockStarted m.pc)

/-- The three bytes from the program counter on. -/
def fetch : Action (UInt8 × UInt8 × UInt8) := do
  let pc := (← get).pc
  let ir ← readCell pc
  let a ← readCell (pc + 1)
  let b ← readCell (pc + 2)
  return (ir, a, b)

/-- The instruction at the program counter, recorded if the machine is tracing. -/
def decode : Action Instruction := do
  let (ir, a, b) ← fetch
  match Instruction.decode? ir a b with
  | none => faultAtPc (.unknownOpcode ir)
  | some i =>
    let m ← get
    if m.tracing then
      emit (.decoded m.pc i)
    return i

/-- Follows the flow of an instruction that has been executed. -/
def follow (i : Instruction) : Flow → Action Unit
  | .next => do setPc ((← get).pc + i.length)
  | .jump target => do
    count fun s => { s with branchesTaken := s.branchesTaken + 1 }
    setPc target
  | .halt => do
    setPhase .halted
    let m ← get
    emit (.halted m.pc m.statistics.ticks)

/-- Dispatches an interrupt if one is due and carries out one instruction. -/
def step : Action Unit := do
  serviceInterrupts
  let i ← decode
  let flow ← execute i
  count fun s => s.retire i.opcode.instructionClass
  follow i flow

/-- The machine after a fault: halted, with the fault in its journal. -/
def stop (m : Machine) (fault : Fault) : Machine :=
  { m with phase := .halted, journal := m.journal.push (.faulted fault m.pc) }

/-- Carries out an action and halts the machine if it ends in a fault. -/
def haltOnFault (x : Action Unit) : Action Unit := fun m =>
  match x m with
  | .ok () m' => .ok () m'
  | .error fault m' => .error fault (m'.stop fault)

/-- One tick of the clock.  An idle machine is started first, a halted one ignores the tick. -/
def tick : Action Unit := do
  if !(← get).isHalted then
    start
    count fun s => { s with ticks := s.ticks + 1 }
    haltOnFault step

/-- Ticks until the machine has halted or faulted, at most `budget` times.  There is no answer if
it would go on. -/
def runFor : Nat → Machine → Option (Except Fault Unit) × Machine
  | budget, m =>
    if m.isHalted then (some (.ok ()), m)
    else
      match budget with
      | 0 => (none, m)
      | budget + 1 =>
        match m.perform tick with
        | (.ok (), m') => runFor budget m'
        | (.error fault, m') => (some (.error fault), m')

/-- Starts the machine and ticks until it has halted or faulted, at most `budget` times. -/
def run (budget : Nat) (m : Machine) : Option (Except Fault Unit) × Machine :=
  runFor budget (m.perform start).2

end LS8.Machine
