import LS8.Proofs.Tick

/-!
# The fault of a tick

When a tick faults, and with which fault.  Every check that a tick can fail belongs to one of five
stages, the stages have an order, and the first stage that fails decides: `tickFault?` is that
order, written in terms of the cells, bytes and operands that the stages look at, and
`tick_result` says that a tick of a machine that has not halted answers with it and with nothing
else.

The first stage reads the machine before the tick.  The others read the one that a successful
dispatch leaves behind, which is the machine before the tick if no interrupt is due.
-/

namespace LS8.Machine

variable (m : Machine)

/-! ## The stages -/

/-- The machine whose instruction a tick carries out: an interrupt that was due is dispatched. -/
def entered : Machine :=
  (m.perform serviceInterrupts).2

/-- The byte at the program counter is no opcode. -/
def opcodeFault? : Option Fault :=
  match Opcode.ofByte? (m.ram.byte m.pc) with
  | none => some (.unknownOpcode (m.ram.byte m.pc) m.pc)
  | some _ => none

/-- The first register operand that names no register, in the order of the operands.  Nothing else
about the instruction matters, so a jump that would not be taken faults here as well, and so does
a division whatever its divisor. -/
def operandFault? : Option Fault :=
  m.instruction?.bind fun i => i.badOperand?.map fun b => .invalidRegister b m.pc

/-- What an instruction asks of the state beyond its operands: a divisor, an interrupt line, cells
for the stack or room in the output. -/
def demandFault? : Option Fault :=
  m.instruction?.bind fun i => i.executionFault? m

/-- The fault of the next tick, the first of those of its stages. -/
def tickFault? : Option Fault :=
  m.dispatchFault?
    |>.or m.entered.fetchFault?
    |>.or m.entered.opcodeFault?
    |>.or m.entered.operandFault?
    |>.or m.entered.demandFault?

/-! ## The order of the stages -/

lemma instructionFault?_eq :
    m.instructionFault? = (m.opcodeFault?.or m.operandFault?).or m.demandFault? := by
  rw [instructionFault?, opcodeFault?, operandFault?, demandFault?, instruction?,
    Instruction.decode?]
  cases Opcode.ofByte? (m.ram.byte m.pc) with
  | none => rfl
  | some op => rfl

lemma entered_of_none (h : m.dispatchFault? = none) : m.entered = m.serviced := by
  rw [entered, perform_serviceInterrupts h]

/-- A step fails at the first stage that does. -/
lemma stepFault?_eq : m.stepFault? = m.tickFault? := by
  rw [stepFault?, tickFault?]
  cases h : m.dispatchFault? with
  | some fault => rfl
  | none =>
    rw [entered_of_none m h, instructionFault?_eq]
    simp only [Option.none_or, Option.or_assoc]

/-! ## The whole tick -/

variable {m}

/-- **The fault of a tick.**  A tick of a machine that has not halted faults exactly if one of its
stages does, with the fault of the first that does.  If the first stage dispatched an interrupt,
the others are about the instruction at the address in the vector of its line. -/
theorem tick_result (h : m.phase ≠ .halted) :
    (m.perform tick).1 = (match m.tickFault? with
      | some fault => .error fault
      | none => .ok ())
      ∧ (m.dueLine? = none → m.entered = m)
      ∧ (∀ line, m.dueLine? = some line → m.dispatchFault? = none →
          m.entered.pc = (m.entered.ram.byte (vectorBase + line)).toNat) := by
  refine ⟨?_, ?_, ?_⟩
  · rw [perform, tick_apply h, stepFault?_eq]
    cases m.tickFault? <;> rfl
  · intro hnone
    have hquiet : m.dispatchFault? = none := by rw [dispatchFault?, hnone, Option.bind_none]
    rw [entered_of_none m hquiet, serviced, hnone]
  · intro line hdue hok
    rw [entered_of_none m hok, serviced, hdue]
    exact pc_dispatched line m

/-- A machine with an interrupt due on line 0, whose vector names the last cell but one. -/
def strayHandler : Machine :=
  { initial ((Ram.zeroed addressSpace).store vectorBase 0xFE) defaultStackTop false .unlimited with
    registers := ((Registers.initial defaultStackTop).write .mask 1).write .status 1 }

/-- The dispatch succeeds and the fetch of the handler faults in the same tick. -/
theorem tick_result_strayHandler :
    strayHandler.phase ≠ .halted
      ∧ (strayHandler.perform tick).1 = .error (.memoryOutOfBounds 256 256) := by
  have hphase : strayHandler.phase ≠ .halted := by decide
  have hfault : strayHandler.tickFault? = some (.memoryOutOfBounds 256 256) := by decide +kernel
  refine ⟨hphase, ?_⟩
  rw [(tick_result hphase).1, hfault]

end LS8.Machine
