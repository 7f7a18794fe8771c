import LS8.Machine.Stack

/-!
# Interrupts

An interrupt line is raised by setting its bit in the status register.  At the start of a tick
the lowest line that is pending under the mask is dispatched, if interrupts are enabled: its bit
is cleared, interrupts are disabled, the program counter, the flags and the registers `R0` to
`R6` are pushed, and execution goes on at the vector of the line.  The return pops them in the
opposite order and enables interrupts again.
-/

namespace LS8

/-- The bit of an interrupt line in the mask and status registers. -/
def lineBit (line : Nat) : UInt8 :=
  1 <<< UInt8.ofNat line

/-- The lowest line whose bit is set. -/
def lowestLine? (pending : UInt8) : Option Nat :=
  (List.range interruptLines).find? fun line => pending &&& lineBit line != 0

/-- The registers that a dispatch saves, in the order in which they are pushed: all but the stack
pointer. -/
def savedRegisters : List Register :=
  (List.finRange registerCount).erase Register.stackPointer

namespace Machine

/-- What a dispatch pushes: the low byte of the program counter, the flags and the registers. -/
def frame (m : Machine) : List UInt8 :=
  UInt8.ofNat m.pc :: m.flags.bits :: savedRegisters.map m.registers.read

/-- The line that is due for dispatch, if interrupts are enabled and one is pending. -/
def dueLine? (m : Machine) : Option Nat :=
  if m.interruptsEnabled then lowestLine? m.registers.pending else none

/-- Marks the line whose number is in a register as pending. -/
def raiseInterrupt (b : UInt8) : Action Flow := do
  let number ← readRegister (← operand b)
  if number.toNat < interruptLines then
    let status := (← readRegister .status) ||| lineBit number.toNat
    writeRegister .status status
    emit (.interruptRaised number status)
    return .next
  else
    faultAtPc (.invalidInterrupt number)

/-- Enters the handler of a line. -/
def dispatch (line : Nat) : Action Unit := do
  writeRegister .status ((← readRegister .status) &&& ~~~lineBit line)
  setInterrupts false
  let ret := UInt8.ofNat (← get).pc
  pushAll (← get).frame
  let vector ← readCell (vectorBase + line)
  emit (.interruptDispatched line ret vector)
  setPc vector.toNat
  count fun s => { s with interruptsServiced := s.interruptsServiced + 1 }

/-- Dispatches the line that is due, if there is one. -/
def serviceInterrupts : Action Unit := do
  match (← get).dueLine? with
  | some line => dispatch line
  | none => pure ()

/-- Leaves a handler: the registers, the flags and the program counter come back from the stack
and interrupts are enabled. -/
def returnFromInterrupt : Action Flow := do
  popInto savedRegisters.reverse
  setFlags (Flags.ofBits (← pop))
  let ret ← pop
  setInterrupts true
  return .jump ret.toNat

end Machine

end LS8
