import LS8.Proofs.Interrupt

/-!
# Interrupts are transparent

A dispatch pushes nine bytes and a return pops nine.  `returnFromInterrupt_undoes_dispatch` says
that the two mirror each other: over a frame that the handler left alone, and at the stack pointer
that the dispatch left behind, a return restores everything that the interrupted program can see,
except that the line which was dispatched is no longer pending.  Nothing is assumed about the
handler beyond that, so it may have changed registers, flags, memory and output at will, and
nothing about the stack pointer, so the frame may wrap around the end of the address space.

The situation before such a return is `OverFrame`.  What a return does in it is said field by
field, in terms of the interrupted machine, and holds for every program counter; only the address
at which the return goes on is a byte of it (`OverFrame.returnFromInterrupt_apply`).
-/

namespace LS8.Machine

/-! ## Over an untouched frame -/

/-- The stack pointer of `after` is where the dispatch of a line in `before` left it, and the nine
cells from there on are as the dispatch left them. -/
structure OverFrame (line : Nat) (before after : Machine) : Prop where
  /-- The dispatch found all its cells. -/
  dispatches : before.ram.accessFault? (before.dispatchCells line) = none
  /-- The stack pointer is back. -/
  stackPointer : after.registers.stackPointer = (before.dispatched line).registers.stackPointer
  /-- The frame is untouched. -/
  frame : ∀ address ∈ cellsFrom (before.dispatched line).registers.stackPointer 9,
    after.ram.cell? address = (before.dispatched line).ram.cell? address

lemma sub_nine_add (sp : UInt8) {i : Nat} (hi : i < 9) :
    sp - UInt8.ofNat 9 + UInt8.ofNat i = sp - UInt8.ofNat (8 - i + 1) := by
  apply UInt8.toNat.inj
  simp only [UInt8.toNat_add, UInt8.toNat_sub, UInt8.toNat_ofNat']
  omega

namespace OverFrame

variable {line : Nat} {before after : Machine}

/-- The cell `i` above the stack pointer holds the byte pushed `i`-th to last. -/
lemma cell?_eq (h : OverFrame line before after) {i : Nat} (hi : i < 9) :
    after.ram.cell? (after.registers.stackPointer + UInt8.ofNat i).toNat =
      (before.acknowledged line).frame[8 - i]? := by
  have hmem : (after.registers.stackPointer + UInt8.ofNat i).toNat
      ∈ cellsFrom (before.dispatched line).registers.stackPointer 9 := by
    rw [h.stackPointer]
    exact List.mem_map.2 ⟨i, List.mem_range.2 hi, rfl⟩
  rw [h.frame _ hmem, h.stackPointer, registers_dispatched,
    Registers.stackPointer_setStackPointer, sub_nine_add _ hi]
  exact cell?_dispatched_frame h.dispatches (8 - i) (by omega)

lemma byte_eq (h : OverFrame line before after) {i : Nat} (hi : i < 9) :
    after.ram.byte (after.registers.stackPointer + UInt8.ofNat i).toNat =
      (before.acknowledged line).frame[8 - i]?.getD 0 := by
  rw [Ram.byte, h.cell?_eq hi]

/-- The return goes on at the low byte of the program counter of the interrupted machine. -/
lemma returnAddress_eq (h : OverFrame line before after) :
    after.returnAddress = UInt8.ofNat before.pc := by
  rw [Machine.returnAddress_eq, h.byte_eq (by omega), frame_eq]
  rfl

/-- A return over an untouched frame finds all its cells. -/
lemma returnFromInterrupt_apply (h : OverFrame line before after) :
    returnFromInterrupt after = .ok (.jump (UInt8.ofNat before.pc).toNat) after.returned := by
  have hcells : after.ram.accessFault? (cellsFrom after.registers.stackPointer 9) = none := by
    rw [Ram.accessFault?_eq_none_iff]
    intro address hmem
    obtain ⟨i, hi, rfl⟩ := List.mem_map.1 hmem
    have hcell := h.cell?_eq (List.mem_range.1 hi)
    rw [List.getElem?_eq_getElem (by rw [length_frame]; omega)] at hcell
    exact Ram.lt_size_of_cell? _ hcell
  rw [Machine.returnFromInterrupt_apply, hcells, h.returnAddress_eq]

lemma stackPointer_returned (h : OverFrame line before after) :
    after.returned.registers.stackPointer = before.registers.stackPointer := by
  rw [Machine.stackPointer_returned, h.stackPointer, registers_dispatched,
    Registers.stackPointer_setStackPointer, UInt8.sub_add_cancel]

/-- The registers come back as they were when the frame was pushed. -/
lemma read_returned (h : OverFrame line before after) {r : Register} (hr : r ≠ .stackPointer) :
    after.returned.registers.read r = (before.acknowledged line).registers.read r := by
  rw [Machine.read_returned hr, h.byte_eq (by omega), getElem?_frame hr, Option.getD_some]

/-- All of them together: those of the interrupted machine with the line no longer pending. -/
lemma registers_returned (h : OverFrame line before after) :
    after.returned.registers =
      before.registers.write .status (before.registers.read .status &&& ~~~lineBit line) := by
  refine Registers.ext_read fun r => ?_
  by_cases hr : r = .stackPointer
  · subst hr
    rw [Registers.read_write_of_ne _ _ (by decide)]
    exact h.stackPointer_returned
  · exact h.read_returned hr

lemma flags_returned (h : OverFrame line before after) : after.returned.flags = before.flags := by
  have hbits : (before.acknowledged line).frame[8 - 7]?.getD 0 = before.flags.bits := by
    rw [frame_eq]
    rfl
  rw [Machine.flags_returned, h.byte_eq (by omega), hbits, Flags.ofBits_bits]

end OverFrame

/-! ## The whole round -/

/-- **Interrupts are transparent.**  Whatever happens between the dispatch of an interrupt and a
return over its untouched frame, the return gives the interrupted program back its registers, its
flags and its place; of its status register it has lost the line that was dispatched and nothing
else, whatever the handler wrote there. -/
theorem returnFromInterrupt_undoes_dispatch {before entered after : Machine}
    (hpc : before.pc < 256) (henabled : before.interruptsEnabled = true)
    (hpending : before.registers.read .mask &&& before.registers.read .status ≠ 0)
    (hservice : before.perform serviceInterrupts = (.ok (), entered))
    (hsp : after.registers.stackPointer = entered.registers.stackPointer)
    (hframe : ∀ address ∈ cellsFrom entered.registers.stackPointer 9,
      after.ram.cell? address = entered.ram.cell? address) :
    ∃ resumed line,
      after.perform returnFromInterrupt = (.ok (.jump before.pc), resumed)
        ∧ IsLowestLine (before.registers.read .mask &&& before.registers.read .status) line
        ∧ (∀ r, r ≠ .status → resumed.registers.read r = before.registers.read r)
        ∧ (∀ j, (resumed.registers.read .status).toNat.testBit j =
            ((before.registers.read .status).toNat.testBit j && decide (line ≠ j)))
        ∧ resumed.flags = before.flags
        ∧ resumed.interruptsEnabled = true
        ∧ resumed.ram = after.ram
        ∧ resumed.output = after.output
        ∧ resumed.statistics = after.statistics := by
  have hdue : ∃ line, before.dueLine? = some line := by
    rw [← Option.ne_none_iff_exists', ne_eq, dueLine?_eq_none_iff, not_or]
    exact ⟨by simp [henabled], hpending⟩
  obtain ⟨line, hline⟩ := hdue
  have hlowest : IsLowestLine before.registers.pending line := (dueLine?_eq_some_iff.1 hline).2
  obtain ⟨hfault, rfl⟩ := dispatched_of_perform hline hservice
  have hover : OverFrame line before after := ⟨hfault, hsp, hframe⟩
  have hplace : (UInt8.ofNat before.pc).toNat = before.pc :=
    UInt8.toNat_ofNat_of_lt' hpc
  have hreturn := hover.returnFromInterrupt_apply
  rw [hplace] at hreturn
  refine ⟨after.returned, line, perform_of_ok hreturn, hlowest, ?_, ?_, hover.flags_returned,
    rfl, ram_returned after, output_returned after, statistics_returned after⟩
  · intro r hr
    by_cases hstack : r = .stackPointer
    · subst hstack
      exact hover.stackPointer_returned
    · rw [hover.read_returned hstack]
      exact Registers.read_write_of_ne _ _ (Ne.symm hr)
  · intro j
    rw [hover.read_returned (by decide), acknowledged, Registers.read_write_self]
    exact testBit_clear _ hlowest.lt j

/-- A machine at address 7 with lines 1 and 2 pending and a stack pointer so low that the frame
wraps around address 0. -/
def wrappingStack : Machine :=
  { initial (Ram.zeroed addressSpace) 4 false .unlimited with
    registers := ((Registers.initial 4).write .mask 6).write .status 0x86
    flags := ⟨false, true, false⟩
    pc := 7 }

/-- The same machine in a handler that has used registers, flags and memory. -/
def wrappingStackHandled : Machine :=
  let entered := (wrappingStack.perform serviceInterrupts).2
  { entered with
    registers := (entered.registers.write .mask 0xFF).write .status 0xFF
    flags := ⟨true, false, false⟩
    ram := entered.ram.store 0x80 1 }

theorem returnFromInterrupt_undoes_dispatch_wrapping :
    ∃ resumed, wrappingStackHandled.perform returnFromInterrupt = (.ok (.jump 7), resumed)
      ∧ resumed.registers.read .mask = 6
      ∧ resumed.registers.stackPointer = 4
      ∧ resumed.flags = ⟨false, true, false⟩ := by
  have hservice : wrappingStack.perform serviceInterrupts =
      (.ok (), (wrappingStack.perform serviceInterrupts).2) := by
    have hquiet : wrappingStack.dispatchFault? = none := by decide +kernel
    rw [perform_serviceInterrupts hquiet]
  have hframe : ∀ address ∈ cellsFrom
      (wrappingStack.perform serviceInterrupts).2.registers.stackPointer 9,
      wrappingStackHandled.ram.cell? address =
        (wrappingStack.perform serviceInterrupts).2.ram.cell? address := by
    decide +kernel
  have hsp : wrappingStackHandled.registers.stackPointer =
      (wrappingStack.perform serviceInterrupts).2.registers.stackPointer := by
    decide +kernel
  obtain ⟨resumed, -, hreturn, -, hregisters, -, hflags, -⟩ :=
    returnFromInterrupt_undoes_dispatch (by decide) (by decide) (by decide) hservice hsp hframe
  have hmask := hregisters .mask (by decide)
  have hstack := hregisters .stackPointer (by decide)
  exact ⟨resumed, hreturn, hmask, hstack, hflags⟩

end LS8.Machine
