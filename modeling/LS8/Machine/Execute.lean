import LS8.Alu
import LS8.Machine.Interrupt

/-!
# Executing an instruction

The effect of each instruction on the machine, short of moving the program counter: an instruction
answers with the flow that the tick then follows.  The registers that an instruction names are
looked up in the order of its operands before anything else happens.
-/

namespace LS8.Machine

/-- The contents of the register that an operand byte names. -/
def readOperand (b : UInt8) : Action UInt8 := do
  readRegister (← operand b)

/-- Sends two bytes through the arithmetic and logic unit and stores what it produced: a value in
a register, flags in the flags. -/
def compute (op : Alu.Operation) (destination : Register) (x y : UInt8) : Action Unit :=
  match Alu.execute op x y with
  | .ok (.value v) => writeRegister destination v
  | .ok (.flags f) => setFlags f
  | .error .divisionByZero => faultAtPc .divisionByZero

/-- An instruction of the arithmetic and logic unit with one operand. -/
def unary (op : Alu.Operation) (a : UInt8) : Action Flow := do
  let r ← operand a
  compute op r (← readRegister r) 0
  return .next

/-- An instruction of the arithmetic and logic unit with two operands. -/
def binary (op : Alu.Operation) (a b : UInt8) : Action Flow := do
  let r ← operand a
  let s ← operand b
  compute op r (← readRegister r) (← readRegister s)
  return .next

/-- Goes on at the address in a register if the condition holds; the register has to exist either
way. -/
def jumpIf (condition : Flags → Bool) (a : UInt8) : Action Flow := do
  let target ← readOperand a
  return if condition (← get).flags then .jump target.toNat else .next

/-- Pushes the address of the following instruction and goes on at the address in a register. -/
def call (a : UInt8) : Action Flow := do
  let target ← readOperand a
  push (UInt8.ofNat ((← get).pc + Opcode.call.length))
  return .jump target.toNat

/-- Prints a register on a line of its own. -/
def printRegister (a : UInt8) : Action Flow := do
  match ← print (← readOperand a) with
  | .ok () => return .next
  | .error failure => faultAtPc (.output failure)

/-- Stores a byte in a register. -/
def loadImmediate (a v : UInt8) : Action Flow := do
  writeRegister (← operand a) v
  return .next

/-- Executes an instruction that stands at the program counter. -/
def execute (i : Instruction) : Action Flow :=
  match i.opcode with
  | .hlt => pure .halt
  | .iret => returnFromInterrupt
  | .prn => printRegister i.a
  | .call => call i.a
  | .int => raiseInterrupt i.a
  | .jeq => jumpIf (fun f => f.equal) i.a
  | .jne => jumpIf (fun f => !f.equal) i.a
  | .jmp => jumpIf (fun _ => true) i.a
  | .inc => unary .inc i.a
  | .dec => unary .dec i.a
  | .ldi => loadImmediate i.a i.b
  | .cmp => binary .cmp i.a i.b
  | .add => binary .add i.a i.b
  | .mul => binary .mul i.a i.b
  | .div => binary .div i.a i.b
  | .and => binary .and i.a i.b

end LS8.Machine
