import LS8.Proofs.Interrupt

/-!
# What a dispatch does

`serviceInterrupts_effect` says the whole of it, for every machine: a memory of any size, a stack
pointer anywhere and a program counter of any size.  Nothing happens unless interrupts are enabled
and a line is pending under the mask.  Then the lowest such line is dispatched.  The dispatch goes
through if the nine cells below the stack pointer and the cell of the vector exist, and what it
changes is `EntersHandler`; if it does not, `MissesCell` is what it leaves alone.

The vector is read after the frame was pushed.  A stack pointer in the first nine cells or above
the cell of the vector may put the frame over the vector, and then the handler is entered at a byte
of the frame.
-/

namespace LS8.Machine

/-! ## A handler that is entered -/

/-- A dispatch of the line in `before` has led to `after`. -/
structure EntersHandler (line : Nat) (before after : Machine) : Prop where
  /-- Below the stack pointer stand the low byte of the program counter, the flags and the
  registers up to the status register, which has lost the line by then. -/
  frame : (cellsBelow before.registers.stackPointer 9).map after.ram.cell? =
    [some (UInt8.ofNat before.pc), some before.flags.bits, some (before.registers.read 0),
      some (before.registers.read 1), some (before.registers.read 2),
      some (before.registers.read 3), some (before.registers.read 4),
      some (before.registers.read 5), some (after.registers.read .status)]
  /-- All other cells are as they were. -/
  otherCells : ∀ address ∉ cellsBelow before.registers.stackPointer 9,
    after.ram.cell? address = before.ram.cell? address
  /-- So are the other registers. -/
  otherRegisters : ∀ r, r ≠ .status → r ≠ .stackPointer →
    after.registers.read r = before.registers.read r
  /-- The status register has lost the line and no other. -/
  status : ∀ j, (after.registers.read .status).toNat.testBit j =
    ((before.registers.read .status).toNat.testBit j && decide (line ≠ j))
  /-- The stack pointer names the last cell of the frame. -/
  stackPointer : after.registers.stackPointer = before.registers.stackPointer - 9
  /-- The flags are as they were. -/
  flags : after.flags = before.flags
  /-- No interrupt will be dispatched until the handler returns. -/
  disabled : after.interruptsEnabled = false
  /-- The dispatch is counted, and nothing else is. -/
  statistics : after.statistics =
    { before.statistics with interruptsServiced := before.statistics.interruptsServiced + 1 }
  /-- Nothing is printed. -/
  output : after.output = before.output
  /-- The handler is at the vector of the line, which the frame has left alone if the stack
  pointer was not too low and not beyond the vector. -/
  vector : ∃ vector, after.ram.cell? (vectorBase + line) = some vector
    ∧ after.pc = vector.toNat
    ∧ (9 ≤ before.registers.stackPointer.toNat →
        before.registers.stackPointer.toNat ≤ vectorBase + line →
        before.ram.cell? (vectorBase + line) = some vector)

/-- The cells below a stack pointer that is not too low are below it as numbers. -/
lemma lt_of_mem_cellsBelow_of_le {sp : UInt8} {k address : Nat} (hk : k ≤ sp.toNat)
    (h : address ∈ cellsBelow sp k) : address < sp.toNat := by
  obtain ⟨i, hi, rfl⟩ := List.mem_map.1 h
  have hi' := List.mem_range.1 hi
  have hsp := sp.toNat_lt
  simp only [UInt8.toNat_sub, UInt8.toNat_ofNat']
  omega

lemma read_dispatched {r : Register} (hr : r ≠ .stackPointer) (line : Nat) (m : Machine) :
    (m.dispatched line).registers.read r = (m.acknowledged line).registers.read r := by
  rw [registers_dispatched]
  exact Registers.read_write_of_ne _ _ (Ne.symm hr)

lemma read_acknowledged {r : Register} (hr : r ≠ .status) (line : Nat) (m : Machine) :
    (m.acknowledged line).registers.read r = m.registers.read r :=
  Registers.read_write_of_ne _ _ (Ne.symm hr)

lemma map_cell?_dispatched {line : Nat} {m : Machine}
    (h : m.ram.accessFault? (m.dispatchCells line) = none) :
    (cellsBelow m.registers.stackPointer 9).map (m.dispatched line).ram.cell? =
      (m.acknowledged line).frame.map some := by
  refine List.ext_getElem? fun i => ?_
  rw [List.getElem?_map, List.getElem?_map]
  by_cases hi : i < 9
  · rw [cellsBelow, List.getElem?_map, List.getElem?_range hi, Option.map_some, Option.map_some,
      cell?_dispatched_frame h i hi, List.getElem?_eq_getElem (by rw [length_frame]; exact hi),
      Option.map_some]
  · rw [List.getElem?_eq_none (by rw [length_cellsBelow]; omega),
      List.getElem?_eq_none (by rw [length_frame]; omega)]
    rfl

lemma entersHandler_dispatched {line : Nat} {m : Machine} (hline : line < interruptLines)
    (h : m.ram.accessFault? (m.dispatchCells line) = none) :
    EntersHandler line m (m.dispatched line) where
  frame := by
    rw [map_cell?_dispatched h, frame_eq, read_dispatched (by decide)]
    simp only [List.map_cons, List.map_nil]
    rw [read_acknowledged (r := 0) (by decide), read_acknowledged (r := 1) (by decide),
      read_acknowledged (r := 2) (by decide), read_acknowledged (r := 3) (by decide),
      read_acknowledged (r := 4) (by decide), read_acknowledged (r := 5) (by decide)]
    rfl
  otherCells _ := cell?_dispatched_of_notMem
  otherRegisters r hstatus hsp := by
    rw [read_dispatched hsp, read_acknowledged hstatus]
  status j := by
    rw [read_dispatched (by decide), acknowledged, Registers.read_write_self]
    exact testBit_clear _ hline j
  stackPointer := by
    rw [registers_dispatched, Registers.stackPointer_setStackPointer]
    rfl
  flags := flags_dispatched line m
  disabled := interruptsEnabled_dispatched line m
  statistics := statistics_dispatched line m
  output := output_dispatched line m
  vector := by
    have hvector : vectorBase + line < (m.dispatched line).ram.size := by
      rw [size_ram_dispatched]
      exact (Ram.accessFault?_eq_none_iff _ _).1 h _ (List.mem_append_right _ List.mem_cons_self)
    refine ⟨_, Ram.cell?_of_lt _ hvector, pc_dispatched line m, fun hlow hhigh => ?_⟩
    rw [← Ram.cell?_of_lt _ hvector]
    refine (cell?_dispatched_of_notMem fun hmem => ?_).symm
    have hbelow := lt_of_mem_cellsBelow_of_le hlow hmem
    omega

/-! ## A handler that is not entered -/

/-- A dispatch of the line in `before` has ended in a fault and has led to `after`. -/
structure MissesCell (line : Nat) (fault : Fault) (before after : Machine) : Prop where
  /-- The fault names the first of the cells that does not exist. -/
  cell : ∃ address, before.ram.outside? (before.dispatchCells line) = some address
    ∧ fault = .memoryOutOfBounds address before.ram.size
  /-- The program counter still names the instruction that was to be interrupted. -/
  pc : after.pc = before.pc
  /-- The flags are as they were. -/
  flags : after.flags = before.flags
  /-- So are the registers, the status register and the stack pointer apart. -/
  otherRegisters : ∀ r, r ≠ .status → r ≠ .stackPointer →
    after.registers.read r = before.registers.read r
  /-- Nothing is counted. -/
  statistics : after.statistics = before.statistics
  /-- Nothing is printed. -/
  output : after.output = before.output

lemma missesCell_dispatchBroken {line : Nat} {fault : Fault} {m : Machine}
    (h : m.ram.accessFault? (m.dispatchCells line) = some fault) :
    MissesCell line fault m (m.dispatchBroken line) where
  cell := by
    obtain ⟨address, hfirst, rfl⟩ := Option.map_eq_some_iff.1 h
    exact ⟨address, hfirst, rfl⟩
  pc := pc_dispatchBroken line m
  flags := by rw [dispatchBroken, flags_pushedAll, acknowledged]
  otherRegisters r hstatus hsp := by
    rw [dispatchBroken, registers_pushedAll, Registers.setStackPointer,
      Registers.read_write_of_ne _ _ (Ne.symm hsp), read_acknowledged hstatus]
  statistics := statistics_dispatchBroken line m
  output := output_dispatchBroken line m

/-! ## The whole effect -/

lemma perform_serviceInterrupts_of_cells {m : Machine} {line : Nat}
    (hdue : m.dueLine? = some line) (h : m.ram.accessFault? (m.dispatchCells line) = none) :
    m.perform serviceInterrupts = (.ok (), m.dispatched line) := by
  rw [perform, serviceInterrupts_apply, dispatchFault?, serviced, hdue, Option.bind_some, h]

lemma perform_serviceInterrupts_of_missing {m : Machine} {line : Nat} {fault : Fault}
    (hdue : m.dueLine? = some line) (h : m.ram.accessFault? (m.dispatchCells line) = some fault) :
    m.perform serviceInterrupts = (.error fault, m.dispatchBroken line) := by
  rw [perform, serviceInterrupts_apply, dispatchFault?, serviceBroken, hdue, Option.bind_some, h]

/-- **What a dispatch does.**  As long as interrupts are disabled or nothing is pending under the
mask, nothing.  Otherwise the lowest pending line is dispatched, which succeeds exactly if the
cells of the frame and of the vector exist. -/
theorem serviceInterrupts_effect (m : Machine) :
    (m.interruptsEnabled = false ∨ m.registers.read .mask &&& m.registers.read .status = 0 →
        m.perform serviceInterrupts = (.ok (), m))
      ∧ (m.interruptsEnabled = true →
        m.registers.read .mask &&& m.registers.read .status ≠ 0 →
        ∃ line, IsLowestLine (m.registers.read .mask &&& m.registers.read .status) line
          ∧ ((m.perform serviceInterrupts).1 = .ok () ↔
              (∀ cell ∈ cellsBelow m.registers.stackPointer 9, cell < m.ram.size)
                ∧ vectorBase + line < m.ram.size)
          ∧ ((m.perform serviceInterrupts).1 = .ok () →
              EntersHandler line m (m.perform serviceInterrupts).2)
          ∧ ∀ fault, (m.perform serviceInterrupts).1 = .error fault →
              MissesCell line fault m (m.perform serviceInterrupts).2) := by
  constructor
  · intro hquiet
    have hdue : m.dueLine? = none := dueLine?_eq_none_iff.2 hquiet
    have hfault : m.dispatchFault? = none := by rw [dispatchFault?, hdue, Option.bind_none]
    rw [perform_serviceInterrupts hfault, serviced_of_none hdue]
  · intro henabled hpending
    obtain ⟨line, hdue⟩ : ∃ line, m.dueLine? = some line := by
      rw [← Option.ne_none_iff_exists', ne_eq, dueLine?_eq_none_iff, not_or]
      exact ⟨by simp [henabled], hpending⟩
    have hlowest : IsLowestLine m.registers.pending line := (dueLine?_eq_some_iff.1 hdue).2
    have hcells : m.ram.accessFault? (m.dispatchCells line) = none ↔
        (∀ cell ∈ cellsBelow m.registers.stackPointer 9, cell < m.ram.size)
          ∧ vectorBase + line < m.ram.size := by
      rw [Ram.accessFault?_eq_none_iff, dispatchCells, List.forall_mem_append,
        List.forall_mem_singleton]
    refine ⟨line, hlowest, ?_⟩
    rw [← hcells]
    cases hfault : m.ram.accessFault? (m.dispatchCells line) with
    | none =>
      rw [perform_serviceInterrupts_of_cells hdue hfault]
      refine ⟨by simp, fun _ => entersHandler_dispatched hlowest.lt hfault, fun fault hok => ?_⟩
      cases hok
    | some fault =>
      rw [perform_serviceInterrupts_of_missing hdue hfault]
      refine ⟨by simp, fun herror => ?_, fun other herror => ?_⟩
      · cases herror
      · cases herror
        exact missesCell_dispatchBroken hfault

/-- A machine with lines 1 and 2 pending and its stack pointer in the vector table, so that the
frame covers the vector of line 1. -/
def stackInVectors : Machine :=
  { initial (Ram.zeroed addressSpace) 0xFB false .unlimited with
    registers := ((Registers.initial 0xFB).write .mask 6).write .status 6
    flags := ⟨false, true, false⟩
    pc := 0x123 }

/-- The handler is entered at the byte that was pushed second, the flags of the interrupted
program.  Over a memory that ends at the first cell of the frame, the dispatch faults there. -/
theorem serviceInterrupts_effect_stackInVectors :
    EntersHandler 1 stackInVectors (stackInVectors.perform serviceInterrupts).2
      ∧ (stackInVectors.perform serviceInterrupts).2.pc = 2
      ∧ MissesCell 1 (.memoryOutOfBounds 0xFA 0xFA)
          { stackInVectors with ram := Ram.zeroed 0xFA }
          (perform { stackInVectors with ram := Ram.zeroed 0xFA } serviceInterrupts).2 := by
  have hlowest : IsLowestLine 6 1 := lowestLine?_eq_some_iff.1 (by decide)
  have hsame : ∀ {line}, IsLowestLine 6 line → line = 1 := by
    intro line hline
    have hfound := (lowestLine?_eq_some_iff.2 hline).symm.trans (lowestLine?_eq_some_iff.2 hlowest)
    exact Option.some.inj hfound
  refine ⟨?_, by decide +kernel, ?_⟩
  · obtain ⟨line, hline, -, henters, -⟩ :=
      (serviceInterrupts_effect stackInVectors).2 rfl (by decide)
    obtain rfl := hsame hline
    exact henters (by decide +kernel)
  · obtain ⟨line, hline, -, -, hmisses⟩ :=
      (serviceInterrupts_effect { stackInVectors with ram := Ram.zeroed 0xFA }).2 rfl (by decide)
    obtain rfl := hsame hline
    exact hmisses _ (by decide +kernel)

end LS8.Machine
