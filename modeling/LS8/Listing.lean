import LS8.Instruction
import LS8.Text.Radix

/-!
# Listings

Bytes as assembly text.  `disassemble` names the instruction at the head of a byte list;
`listing` cuts a whole program into `segments`, one for each instruction or unknown byte, and
writes each on a line of its own after its offset.
-/

namespace LS8

open Text

/-- An operand byte of a known kind: a register by its number, an immediate in decimal. -/
def OperandKind.text : OperandKind → UInt8 → String
  | .register, b => "R" ++ decimal b.toNat
  | .immediate, b => decimal b.toNat

/-- The texts of the operands, a question mark standing for each byte that is missing. -/
def operandTexts : List OperandKind → List UInt8 → List String
  | [], _ => []
  | _ :: kinds, [] => "?" :: operandTexts kinds []
  | kind :: kinds, b :: bytes => kind.text b :: operandTexts kinds bytes

/-- The instruction at the head of the bytes: its mnemonic and its operands between commas.  A
byte that is no opcode is shown by its bits. -/
def disassemble : List UInt8 → String
  | [] => "<empty>"
  | ir :: rest =>
    match Opcode.ofByte? ir with
    | none => ".byte " ++ binaryByte ir
    | some op =>
      match operandTexts op.operands rest with
      | [] => op.mnemonic
      | texts => op.mnemonic ++ " " ++ String.intercalate "," texts

/-- The assembly text of a decoded instruction. -/
def Instruction.text (i : Instruction) : String :=
  disassemble [i.opcode.byte, i.a, i.b]

/-- The number of bytes that belong to the instruction byte `b`; an unknown byte stands alone. -/
def followers (b : UInt8) : Nat :=
  match Opcode.ofByte? b with
  | some _ => operandCount b
  | none => 0

/-- A program cut into its instructions and unknown bytes; the last may lack some of its
operands. -/
def segments : List UInt8 → List (List UInt8)
  | [] => []
  | b :: rest => (b :: rest.take (followers b)) :: segments (rest.drop (followers b))
termination_by bytes => bytes.length
decreasing_by simp only [List.length_drop, List.length_cons]; omega

/-- A line for each segment, the first of which stands at `offset`. -/
def listingFrom : Nat → List (List UInt8) → List String
  | _, [] => []
  | offset, segment :: rest =>
    (hexAddress offset ++ ": " ++ disassemble segment)
      :: listingFrom (offset + segment.length) rest

/-- The lines of a whole program, each an address and the instruction there. -/
def listing (program : List UInt8) : List String :=
  listingFrom 0 (segments program)

end LS8
