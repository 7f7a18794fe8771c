import LS8.Proofs.Numeral
import LS8.Proofs.StraightLine

/-!
# The listing of an instruction stream

A listing cuts bytes at the lengths that the bytes themselves announce.  On encoded instructions
these cuts fall where one encoding ends and the next begins, whatever the operand bytes look like
(`segments_encodeAll`), so the listing has one line for each instruction (`listing_encodeAll`).
-/

namespace LS8

open Text

/-! ## One instruction -/

lemma Opcode.length_eq_operands (op : Opcode) : op.length = op.operands.length + 1 := by
  rw [Opcode.length, encodedLength, operandCount_eq_length_operands]

/-- An opcode announces as many further bytes as it has operands. -/
lemma followers_byte (op : Opcode) : followers op.byte = op.operands.length := by
  simp only [followers, Opcode.ofByte?_byte, Opcode.operandCount_eq_length_operands]

/-- Bytes behind the operands are not looked at. -/
lemma operandTexts_take (kinds : List OperandKind) (bytes : List UInt8) :
    operandTexts kinds (bytes.take kinds.length) = operandTexts kinds bytes := by
  induction kinds generalizing bytes with
  | nil => rfl
  | cons kind kinds ih =>
    cases bytes with
    | nil => rfl
    | cons b rest => rw [List.length_cons, List.take_succ_cons, operandTexts, operandTexts, ih]

lemma disassemble_take (op : Opcode) (bytes : List UInt8) :
    disassemble (op.byte :: bytes.take op.operands.length) = disassemble (op.byte :: bytes) := by
  simp only [disassemble, Opcode.ofByte?_byte, operandTexts_take]

namespace Instruction

lemma encode_eq (i : Instruction) :
    i.encode = i.opcode.byte :: [i.a, i.b].take i.opcode.operands.length := by
  rw [encode, length, Opcode.length_eq_operands, List.take_succ_cons]

/-- The encoding alone is written like the instruction with everything that it carries. -/
lemma disassemble_encode (i : Instruction) : disassemble i.encode = i.text := by
  rw [encode_eq, disassemble_take, text]

end Instruction

/-! ## Cutting a program -/

lemma segments_byte (op : Opcode) (bytes : List UInt8) :
    segments (op.byte :: bytes) =
      (op.byte :: bytes.take op.operands.length) :: segments (bytes.drop op.operands.length) := by
  rw [segments, followers_byte]

lemma segments_encode_append (i : Instruction) (rest : List UInt8) :
    segments (i.encode ++ rest) = i.encode :: segments rest := by
  have hlength : ([i.a, i.b].take i.opcode.operands.length).length = i.opcode.operands.length := by
    have hencode := i.length_encode
    rw [Instruction.encode_eq, Instruction.length, Opcode.length_eq_operands,
      List.length_cons] at hencode
    exact Nat.succ_inj.1 hencode
  rw [Instruction.encode_eq, List.cons_append, segments_byte, List.take_left' hlength,
    List.drop_left' hlength]

/-- The segments of encoded instructions are the encodings. -/
lemma segments_encodeAll (code : List Instruction) :
    segments (Instruction.encodeAll code) = code.map Instruction.encode := by
  induction code with
  | nil => rw [Instruction.encodeAll, List.flatMap_nil, segments, List.map_nil]
  | cons i rest ih => rw [Instruction.encodeAll_cons, segments_encode_append, ih, List.map_cons]

/-! ## Lines -/

lemma length_listingFrom (offset : Nat) (cut : List (List UInt8)) :
    (listingFrom offset cut).length = cut.length := by
  induction cut generalizing offset with
  | nil => rfl
  | cons segment rest ih => rw [listingFrom, List.length_cons, List.length_cons, ih]

/-- Each line names the number of bytes in front of its segment. -/
lemma getElem?_listingFrom (offset : Nat) (cut : List (List UInt8)) (k : Nat) :
    (listingFrom offset cut)[k]? = cut[k]?.map fun segment =>
      hexAddress (offset + (cut.take k).flatten.length) ++ ": " ++ disassemble segment := by
  induction cut generalizing offset k with
  | nil => rfl
  | cons segment rest ih =>
    cases k with
    | zero => rfl
    | succ k =>
      rw [listingFrom, List.getElem?_cons_succ, List.getElem?_cons_succ, ih, List.take_succ_cons,
        List.flatten_cons, List.length_append, Nat.add_assoc]

/-- An address is written in base sixteen with two digits, or with more if it needs them. -/
lemma exists_hexAddress (n : Nat) :
    ∃ digits, Numeral 16 digits n ∧ 2 ≤ digits.length
      ∧ (digits.length = 2 ∨ digits.head? ≠ some '0')
      ∧ hexAddress n = "0x" ++ String.ofList digits := by
  refine ⟨paddedDigits 16 2 n, numeral_paddedDigits (by decide) (by decide) 2 n, ?_, ?_, rfl⟩
  · rw [length_paddedDigits]
    exact Nat.le_max_left ..
  · by_cases hlong : 2 < (paddedDigits 16 2 n).length
    · exact Or.inr (head?_paddedDigits (by decide) (by decide) hlong)
    · rw [length_paddedDigits] at hlong ⊢
      exact Or.inl (by omega)

/-- **The listing of encoded instructions is the instructions.**  There is a line for each of them,
in order, whatever bytes they carry as operands: the number of bytes in front of the instruction
in base sixteen, with two digits or as many as it takes, and then the instruction as it is
written. -/
theorem listing_encodeAll (code : List Instruction) :
    (listing (Instruction.encodeAll code)).length = code.length
      ∧ ∀ k : Fin code.length, ∃ digits,
          Numeral 16 digits (Instruction.encodeAll (code.take k)).length
            ∧ 2 ≤ digits.length
            ∧ (digits.length = 2 ∨ digits.head? ≠ some '0')
            ∧ (listing (Instruction.encodeAll code))[k.val]? =
                some ("0x" ++ String.ofList digits ++ ": " ++ code[k].text) := by
  rw [listing, segments_encodeAll]
  refine ⟨?_, fun k => ?_⟩
  · rw [length_listingFrom, List.length_map]
  · have hbefore : ((code.map Instruction.encode).take k).flatten =
        Instruction.encodeAll (code.take k) := by
      rw [← List.map_take, ← List.flatMap_def]
      rfl
    obtain ⟨digits, hnumeral, htwo, hshort, haddress⟩ :=
      exists_hexAddress (Instruction.encodeAll (code.take k)).length
    refine ⟨digits, hnumeral, htwo, hshort, ?_⟩
    rw [getElem?_listingFrom, hbefore, Nat.zero_add, haddress, List.getElem?_map,
      List.getElem?_eq_getElem k.isLt, Option.map_some, Option.map_some,
      Instruction.disassemble_encode]
    rfl

end LS8
