import LS8.Machine.Basic

/-!
# The stack

The stack lives in memory and grows downwards from the cell before the initial stack pointer.
The stack pointer is a byte and wraps; whether the cell that it names exists is decided by the
memory.  Both operations touch the stack pointer only after the access to memory succeeded.
-/

namespace LS8.Machine

/-- Pushes a byte: the stack pointer goes down by one and names the cell that holds the byte. -/
def push (v : UInt8) : Action Unit := do
  let sp := (← readRegister .stackPointer) - 1
  writeCell sp.toNat v
  writeRegister .stackPointer sp
  emit (.pushed sp v)

/-- Pops a byte: the answer is in the cell that the stack pointer names, which then goes up. -/
def pop : Action UInt8 := do
  let sp ← readRegister .stackPointer
  let v ← readCell sp.toNat
  writeRegister .stackPointer (sp + 1)
  emit (.popped sp v)
  return v

/-- Pushes bytes one after the other. -/
def pushAll : List UInt8 → Action Unit
  | [] => pure ()
  | v :: rest => do
    push v
    pushAll rest

/-- Pops into registers one after the other. -/
def popInto : List Register → Action Unit
  | [] => pure ()
  | r :: rest => do
    writeRegister r (← pop)
    popInto rest

end LS8.Machine
