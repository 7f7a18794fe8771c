/-!
# Opcodes

The sixteen opcodes with everything that hangs off them: the encoded byte, the mnemonic, the
kinds of the operands and the class that the statistics count.  The two high bits of an encoded
byte give the number of operand bytes that follow it, so the length of an instruction is known
before it is decoded; `operandCount_eq_length_operands` says that this agrees with the declared
operands.
-/

namespace LS8

/-- The number of operand bytes after the instruction byte `b`: its two high bits. -/
def operandCount (b : UInt8) : Nat :=
  (b >>> 6).toNat

/-- The length in bytes of an instruction that starts with `b`. -/
def encodedLength (b : UInt8) : Nat :=
  operandCount b + 1

/-- What an operand byte means. -/
inductive OperandKind where
  /-- The byte names a register. -/
  | register
  /-- The byte stands for itself. -/
  | immediate
  deriving DecidableEq, Repr

/-- The kind of work that an instruction does, as the statistics count it. -/
inductive InstructionClass where
  /-- Arithmetic, logic and comparison. -/
  | alu
  /-- Loading a register. -/
  | load
  /-- Jumps and calls. -/
  | branch
  /-- Printing. -/
  | output
  /-- Raising an interrupt or returning from one. -/
  | interrupt
  /-- Halting. -/
  | system
  deriving DecidableEq, Repr

/-- The instructions, without their operands. -/
inductive Opcode where
  /-- Halt. -/
  | hlt
  /-- Return from an interrupt handler. -/
  | iret
  /-- Print a register in decimal. -/
  | prn
  /-- Call the subroutine whose address is in a register. -/
  | call
  /-- Raise the interrupt whose number is in a register. -/
  | int
  /-- Jump if the last comparison found equality. -/
  | jeq
  /-- Jump unless the last comparison found equality. -/
  | jne
  /-- Jump. -/
  | jmp
  /-- Increment a register. -/
  | inc
  /-- Decrement a register. -/
  | dec
  /-- Load an immediate byte into a register. -/
  | ldi
  /-- Compare two registers. -/
  | cmp
  /-- Add two registers. -/
  | add
  /-- Multiply two registers. -/
  | mul
  /-- Divide two registers. -/
  | div
  /-- The bitwise conjunction of two registers. -/
  | and
  deriving DecidableEq, Repr

namespace Opcode

/-- All opcodes, in the order of their encodings. -/
def all : List Opcode :=
  [hlt, iret, prn, call, int, jeq, jne, jmp, inc, dec, ldi, cmp, add, mul, div, and]

/-- The encoded byte. -/
def byte : Opcode → UInt8
  | hlt => 0x01
  | iret => 0x0B
  | prn => 0x43
  | call => 0x48
  | int => 0x4A
  | jeq => 0x51
  | jne => 0x52
  | jmp => 0x54
  | inc => 0x78
  | dec => 0x79
  | ldi => 0x99
  | cmp => 0xA0
  | add => 0xA8
  | mul => 0xAA
  | div => 0xAB
  | and => 0xB3

/-- The opcode that a byte encodes, if it encodes one. -/
def ofByte? (b : UInt8) : Option Opcode :=
  all.find? fun op => op.byte == b

/-- The length of the encoded instruction in bytes, operands included. -/
def length (op : Opcode) : Nat :=
  encodedLength op.byte

/-- The name in assembly language. -/
def mnemonic : Opcode → String
  | hlt => "HLT"
  | iret => "IRET"
  | prn => "PRN"
  | call => "CALL"
  | int => "INT"
  | jeq => "JEQ"
  | jne => "JNE"
  | jmp => "JMP"
  | inc => "INC"
  | dec => "DEC"
  | ldi => "LDI"
  | cmp => "CMP"
  | add => "ADD"
  | mul => "MUL"
  | div => "DIV"
  | and => "AND"

/-- The opcode of a mnemonic, whose ASCII letters may be of either case. -/
def ofMnemonic? (name : String) : Option Opcode :=
  all.find? fun op => op.mnemonic.toList == name.toList.map Char.toUpper

/-- The kinds of the operands, in order. -/
def operands : Opcode → List OperandKind
  | hlt | iret => []
  | prn | call | int | jeq | jne | jmp | inc | dec => [.register]
  | ldi => [.register, .immediate]
  | cmp | add | mul | div | and => [.register, .register]

/-- The class under which the instruction is counted. -/
def instructionClass : Opcode → InstructionClass
  | hlt => .system
  | iret | int => .interrupt
  | prn => .output
  | call | jeq | jne | jmp => .branch
  | ldi => .load
  | inc | dec | cmp | add | mul | div | and => .alu

/-- Every opcode is found again under its own byte. -/
@[simp] theorem ofByte?_byte (op : Opcode) : ofByte? op.byte = some op := by
  cases op <;> decide

/-- A byte encodes at most one opcode, the one whose byte it is. -/
theorem byte_eq_of_ofByte? {b : UInt8} {op : Opcode} (h : ofByte? b = some op) : op.byte = b := by
  simpa using List.find?_some h

/-- The high bits of an opcode count its declared operands. -/
theorem operandCount_eq_length_operands (op : Opcode) :
    operandCount op.byte = op.operands.length := by
  cases op <;> decide

theorem length_le_three (op : Opcode) : op.length ≤ 3 := by
  cases op <;> decide

end Opcode

end LS8
