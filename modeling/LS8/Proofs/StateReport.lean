import LS8.Machine.Report
import LS8.Proofs.Disassembly
import LS8.Proofs.Journal
import Mathlib.Data.Nat.Digits.Defs

/-!
# The state report foretells the next tick

The report shows the instruction at the program counter from at most three bytes, and fewer at the
end of memory; the tick fetches three bytes one by one and faults at the first that is missing.
Both therefore depend on where the program counter stands to the number of cells, but not in the
same way: the report has a text for every place, while the tick only comes to an instruction if all
three bytes are there.

`Foretells` lists what a text says about the tick at each of these places, and
`stateReport_foretells_tick` says that the text in the report is such a text, as long as no
interrupt is due that would take the tick elsewhere.
-/

namespace LS8.Machine

open Text

variable {m : Machine}

/-! ## The text -/

/-- A byte has eight binary digits. -/
lemma exists_binaryByte (b : UInt8) :
    ∃ digits, Numeral 2 digits b.toNat ∧ digits.length = 8
      ∧ binaryByte b = "0b" ++ String.ofList digits := by
  refine ⟨paddedDigits 2 8 b.toNat, numeral_paddedDigits (by decide) (by decide) 8 _, ?_, rfl⟩
  rw [length_paddedDigits]
  exact Nat.max_eq_left (Nat.toDigits_length 2 b.toNat 8 (by decide) b.toNat_lt)

lemma instructionText_of_lt (h : m.ram.size < m.pc) : m.instructionText = "<out of range>" := by
  rw [instructionText, Ram.window, if_neg (Nat.not_le.2 h)]

lemma instructionText_of_le (h : m.pc ≤ m.ram.size) :
    m.instructionText = disassemble ((m.ram.toList.drop m.pc).take 3) := by
  rw [instructionText, Ram.window, if_pos h]

lemma instructionText_of_eq (h : m.pc = m.ram.size) : m.instructionText = "<empty>" := by
  have hnone : m.ram.toList.drop m.pc = [] :=
    List.drop_eq_nil_of_le (Nat.le_of_eq (m.ram.length_toList.trans h.symm))
  rw [instructionText_of_le (Nat.le_of_eq h), hnone, List.take_nil]
  rfl

/-- Where there is a cell, the text is that of its byte and at most two of those behind it. -/
lemma instructionText_of_cell (h : m.pc < m.ram.size) :
    m.instructionText =
      disassemble (m.ram.byte m.pc :: (m.ram.toList.drop (m.pc + 1)).take 2) := by
  rw [instructionText_of_le (Nat.le_of_lt h), m.ram.drop_eq_byte_cons h]
  rfl

lemma instructionText_of_fetch (h : m.pc + 2 < m.ram.size) :
    m.instructionText =
      disassemble [m.ram.byte m.pc, m.ram.byte (m.pc + 1), m.ram.byte (m.pc + 2)] := by
  rw [instructionText_of_le (by omega), m.ram.take_three_drop h]

/-- Where there is a cell, the text is none of the two that begin with a bracket. -/
lemma instructionText_ne {text : String} (h : m.pc < m.ram.size)
    (hbracket : '<' ∈ text.toList.takeWhile (· != ' ')) : m.instructionText ≠ text := by
  rintro rfl
  rw [instructionText_of_cell h] at hbracket
  exact bracket_notMem_takeWhile_disassemble _ _ hbracket

lemma instructionText_eq_outOfRange_iff :
    m.instructionText = "<out of range>" ↔ m.ram.size < m.pc := by
  refine ⟨fun htext => ?_, instructionText_of_lt⟩
  rcases Nat.lt_trichotomy m.pc m.ram.size with hlt | heq | hgt
  · exact absurd htext (instructionText_ne hlt (by decide))
  · rw [instructionText_of_eq heq] at htext
    exact absurd htext (by decide)
  · exact hgt

lemma instructionText_eq_empty_iff : m.instructionText = "<empty>" ↔ m.pc = m.ram.size := by
  refine ⟨fun htext => ?_, instructionText_of_eq⟩
  rcases Nat.lt_trichotomy m.pc m.ram.size with hlt | heq | hgt
  · exact absurd htext (instructionText_ne hlt (by decide))
  · exact heq
  · rw [instructionText_of_lt hgt] at htext
    exact absurd htext (by decide)

/-- Near the end of memory a question mark shows that the instruction goes on behind it. -/
lemma question_mem_instructionText_iff (hcell : m.pc < m.ram.size)
    (hcut : m.ram.size ≤ m.pc + 2) :
    '?' ∈ m.instructionText.toList ↔
      ∃ op, Opcode.ofByte? (m.ram.byte m.pc) = some op ∧ m.ram.size < m.pc + op.length := by
  rw [instructionText_of_cell hcell]
  cases hop : Opcode.ofByte? (m.ram.byte m.pc) with
  | none => simp [question_notMem_disassemble_of_none hop]
  | some op =>
    have hlength := op.length_eq_operands
    rw [← Opcode.byte_eq_of_ofByte? hop, question_mem_disassemble_byte, List.length_take,
      List.length_drop, Ram.length_toList]
    simp only [Option.some_inj, exists_eq_left']
    omega

/-! ## The tick -/

section Quiet

variable (hphase : m.phase ≠ .halted) (hdue : m.dueLine? = none)
include hphase hdue

lemma tick_of_missing (h : m.ram.size ≤ m.pc + 2) :
    (m.perform tick).1 = .error (.memoryOutOfBounds (max m.pc m.ram.size) m.ram.size) := by
  have hfetch : m.fetchFault? = some (.memoryOutOfBounds (max m.pc m.ram.size) m.ram.size) :=
    if_neg (Nat.not_lt.2 h)
  rw [perform, tick_apply hphase, stepFault?_of_quiet hdue, hfetch]
  rfl

lemma tick_of_unknown (hfetch : m.pc + 2 < m.ram.size)
    (hop : Opcode.ofByte? (m.ram.byte m.pc) = none) :
    (m.perform tick).1 = .error (.unknownOpcode (m.ram.byte m.pc) m.pc) := by
  have hinstruction : m.instruction? = none := by
    rw [instruction?, Instruction.decode?, hop, Option.map_none]
  have hfetchFault : m.fetchFault? = none := if_pos hfetch
  rw [perform, tick_apply hphase, stepFault?_of_quiet hdue, hfetchFault, Option.none_or,
    instructionFault?, hinstruction]

lemma executes?_of_quiet (hfetch : m.pc + 2 < m.ram.size) : m.executes? = m.instruction? := by
  have hdispatch : m.dispatchFault? = none := by rw [dispatchFault?, hdue, Option.bind_none]
  rw [executes?_eq hphase, entered_of_quiet hdue, if_pos ⟨hdispatch, if_pos hfetch⟩]

end Quiet

/-! ## The report -/

/-- What a text says about the next tick of a machine, depending on the program counter. -/
structure Foretells (m : Machine) (text : String) : Prop where
  /-- Behind the end of memory there is nothing to show. -/
  beyond : text = "<out of range>" ↔ m.ram.size < m.pc
  /-- The end of memory has no bytes. -/
  atEnd : text = "<empty>" ↔ m.pc = m.ram.size
  /-- In both places the tick faults at the program counter. -/
  outside : m.ram.size ≤ m.pc →
    (m.perform tick).1 = .error (.memoryOutOfBounds m.pc m.ram.size)
  /-- Three bytes that begin with an opcode are shown as the instruction that the tick decodes. -/
  known : m.pc + 2 < m.ram.size → ∀ op, Opcode.ofByte? (m.ram.byte m.pc) = some op →
    ∃ i, i.opcode = op ∧ m.executes? = some i ∧ text = i.text
  /-- If they do not, the tick rejects a byte and the text has the bits of that byte. -/
  unknown : m.pc + 2 < m.ram.size → Opcode.ofByte? (m.ram.byte m.pc) = none →
    ∃ b digits, (m.perform tick).1 = .error (.unknownOpcode b m.pc)
      ∧ Numeral 2 digits b.toNat ∧ digits.length = 8
      ∧ text = ".byte 0b" ++ String.ofList digits
  /-- With fewer than three bytes the tick faults at the end of memory. -/
  short : m.pc < m.ram.size → m.ram.size ≤ m.pc + 2 →
    (m.perform tick).1 = .error (.memoryOutOfBounds m.ram.size m.ram.size)
  /-- A question mark is there exactly if the instruction itself needs more of them. -/
  question : m.pc < m.ram.size → m.ram.size ≤ m.pc + 2 →
    ('?' ∈ text.toList ↔
      ∃ op, Opcode.ofByte? (m.ram.byte m.pc) = some op ∧ m.ram.size < m.pc + op.length)

/-- **The state report shows what the next tick does.**  The text between the brackets of the report
of a machine that has not halted and has no interrupt due foretells its next tick. -/
theorem stateReport_foretells_tick (hphase : m.phase ≠ .halted) (hdue : m.dueLine? = none) :
    ∃ text,
      m.stateReport = "state=" ++ m.phase.text ++ " pc=" ++ hexAddress m.pc
        ++ " fl=" ++ m.flags.text ++ " ie=" ++ boolText m.interruptsEnabled
        ++ " inst=[" ++ text ++ "]\n" ++ m.registers.text
        ∧ m.Foretells text := by
  refine ⟨m.instructionText, rfl, ?_⟩
  refine
    { beyond := instructionText_eq_outOfRange_iff
      atEnd := instructionText_eq_empty_iff
      outside := fun h => ?_
      known := fun hfetch op hop => ?_
      unknown := fun hfetch hop => ?_
      short := fun hcell hcut => ?_
      question := question_mem_instructionText_iff }
  · have htick := tick_of_missing hphase hdue (by omega)
    rwa [Nat.max_eq_left h] at htick
  · refine ⟨⟨op, m.ram.byte (m.pc + 1), m.ram.byte (m.pc + 2)⟩, rfl, ?_, ?_⟩
    · rw [executes?_of_quiet hphase hdue hfetch, instruction?, Instruction.decode?, hop,
        Option.map_some]
    · rw [instructionText_of_fetch hfetch, ← Opcode.byte_eq_of_ofByte? hop]
      rfl
  · obtain ⟨digits, hnumeral, hlength, hbits⟩ := exists_binaryByte (m.ram.byte m.pc)
    refine ⟨_, digits, tick_of_unknown hphase hdue hfetch hop, hnumeral, hlength, ?_⟩
    rw [instructionText_of_cell (by omega), disassemble_of_none hop, hbits, ← String.append_assoc]
    rfl
  · have htick := tick_of_missing hphase hdue hcut
    rwa [Nat.max_eq_right (Nat.le_of_lt hcell)] at htick

/-- A load of three bytes whose last byte does not fit into a memory of two cells. -/
def cutLoad : Machine :=
  initial ⟨#[Opcode.ldi.byte, 2]⟩ 0 false .unlimited

/-- The report of such a load has a question mark, and the tick faults at the missing cell. -/
theorem stateReport_foretells_tick_cutLoad :
    cutLoad.phase ≠ .halted ∧ cutLoad.dueLine? = none ∧ ∃ text,
      cutLoad.stateReport = "state=idle pc=0x00 fl=" ++ cutLoad.flags.text ++ " ie=true inst=["
        ++ text ++ "]\n" ++ cutLoad.registers.text
      ∧ '?' ∈ text.toList
      ∧ (cutLoad.perform tick).1 = .error (.memoryOutOfBounds 2 2) := by
  have hphase : cutLoad.phase ≠ .halted := by decide
  have hdue : cutLoad.dueLine? = none := by decide
  obtain ⟨text, hreport, hforetells⟩ := stateReport_foretells_tick hphase hdue
  refine ⟨hphase, hdue, text, hreport, ?_, hforetells.short (by decide) (by decide)⟩
  exact (hforetells.question (by decide) (by decide)).2 ⟨.ldi, by decide, by decide⟩

end LS8.Machine
