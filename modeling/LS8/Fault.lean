import LS8.Output

/-!
# Faults

Everything that stops a machine against its program's will.  A fault records where it arose and
what was wrong there; `message` is its only wording.
-/

namespace LS8

open Text

/-- Why a machine stopped. -/
inductive Fault where
  /-- A memory access fell outside the cells of a memory with the given capacity. -/
  | memoryOutOfBounds (address capacity : Nat)
  /-- The byte at `pc` is no opcode. -/
  | unknownOpcode (byte : UInt8) (pc : Nat)
  /-- The division at `pc` has a zero divisor. -/
  | divisionByZero (pc : Nat)
  /-- An operand of the instruction at `pc` names no register. -/
  | invalidRegister (index : UInt8) (pc : Nat)
  /-- The instruction at `pc` raises an interrupt line that does not exist. -/
  | invalidInterrupt (number : UInt8) (pc : Nat)
  /-- The output did not take what the instruction at `pc` printed. -/
  | output (failure : WriteFailure) (pc : Nat)
  deriving DecidableEq, Repr

namespace Fault

/-- The wording of a fault: addresses in base sixteen, an unknown opcode by its bits and every
other number in decimal. -/
def message : Fault → String
  | memoryOutOfBounds address capacity =>
    "memory access out of range: address " ++ hexAddress address
      ++ " (capacity " ++ decimal capacity ++ " bytes)"
  | unknownOpcode byte pc => "unknown instruction " ++ binaryByte byte ++ " at " ++ hexAddress pc
  | divisionByZero pc => "division by zero at " ++ hexAddress pc
  | invalidRegister index pc =>
    "invalid register index " ++ decimal index.toNat ++ " at " ++ hexAddress pc
  | invalidInterrupt number pc =>
    "invalid interrupt number " ++ decimal number.toNat ++ " at " ++ hexAddress pc
  | output failure pc => "output error at " ++ hexAddress pc ++ ": " ++ failure.message

end Fault

end LS8
