import LS8.Opcode

/-!
# Instructions

A decoded instruction is an opcode and the two bytes after it.  Both bytes are always fetched; an
instruction with fewer operands carries the others along and `encode` drops them again.
-/

namespace LS8

/-- An opcode with the two bytes that follow it in memory. -/
structure Instruction where
  /-- What to do. -/
  opcode : Opcode
  /-- The first byte after the opcode. -/
  a : UInt8
  /-- The second byte after the opcode. -/
  b : UInt8
  deriving DecidableEq, Repr

namespace Instruction

/-- The instruction in three consecutive bytes, if the first of them is an opcode. -/
def decode? (ir a b : UInt8) : Option Instruction :=
  (Opcode.ofByte? ir).map fun op => ⟨op, a, b⟩

/-- The length of the encoding in bytes. -/
def length (i : Instruction) : Nat :=
  i.opcode.length

/-- The opcode byte and as many operand bytes as the instruction uses. -/
def encode (i : Instruction) : List UInt8 :=
  [i.opcode.byte, i.a, i.b].take i.length

@[simp] theorem length_encode (i : Instruction) : i.encode.length = i.length := by
  simp [encode, Nat.min_eq_left i.opcode.length_le_three, length]

end Instruction

end LS8
