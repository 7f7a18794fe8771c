import LS8.Proofs.Line
import LS8.Proofs.Stack

/-!
# Dispatch and return

What the dispatch of an interrupt and the return from its handler answer and leave behind
(`serviceInterrupts_apply`, `returnFromInterrupt_apply`).  A dispatch takes note of the interrupt
first and pushes its frame of nine bytes afterwards (`acknowledged`, `frame`); a return pops nine
bytes, the registers before the flags before the address.  Both stop at the first cell that they
do not find, and what they have done by then stays done.
-/

namespace LS8

lemma savedRegisters_eq : savedRegisters = [0, 1, 2, 3, 4, 5, 6] := by decide

namespace Machine

/-! ## Dispatch -/

lemma frame_eq (m : Machine) :
    m.frame = [UInt8.ofNat m.pc, m.flags.bits, m.registers.read 0, m.registers.read 1,
      m.registers.read 2, m.registers.read 3, m.registers.read 4, m.registers.read 5,
      m.registers.read 6] := by
  rw [frame, savedRegisters_eq]
  rfl

@[simp] lemma length_frame (m : Machine) : m.frame.length = 9 := by
  rw [frame_eq]
  rfl

/-- The registers stand in a frame in their order, after the program counter and the flags. -/
lemma getElem?_frame {r : Register} (hr : r ≠ .stackPointer) (m : Machine) :
    m.frame[8 - (6 - r.val)]? = some (m.registers.read r) := by
  rw [frame_eq]
  obtain ⟨n, hn⟩ := r
  unfold registerCount at hn
  interval_cases n
  case «7» => exact absurd rfl hr
  all_goals rfl

/-- The machine that has taken note of an interrupt: the bit of its line is cleared and
interrupts are disabled. -/
def acknowledged (line : Nat) (m : Machine) : Machine :=
  { m with
    registers := m.registers.write .status (m.registers.read .status &&& ~~~lineBit line)
    interruptsEnabled := false }

/-- The cells that the dispatch of a line goes through, in order: nine below the stack pointer
and the vector. -/
def dispatchCells (line : Nat) (m : Machine) : List Nat :=
  cellsBelow m.registers.stackPointer 9 ++ [vectorBase + line]

/-- The machine after the dispatch of a line that found all its cells. -/
def dispatched (line : Nat) (m : Machine) : Machine :=
  let saved := pushedAll (m.acknowledged line).frame (m.acknowledged line)
  let vector := saved.ram.byte (vectorBase + line)
  { saved with
    pc := vector.toNat
    journal := saved.journal.push (.interruptDispatched line (UInt8.ofNat m.pc) vector)
    statistics :=
      { saved.statistics with interruptsServiced := saved.statistics.interruptsServiced + 1 } }

/-- The machine after the dispatch of a line that did not: it has pushed what it could. -/
def dispatchBroken (line : Nat) (m : Machine) : Machine :=
  pushedAll ((m.acknowledged line).frame.take
    (m.ram.reach (cellsBelow m.registers.stackPointer 9))) (m.acknowledged line)

@[simp] lemma stackPointer_acknowledged (line : Nat) (m : Machine) :
    (m.acknowledged line).registers.stackPointer = m.registers.stackPointer :=
  Registers.stackPointer_write_of_ne _ _ (by decide)

@[simp] lemma ram_acknowledged (line : Nat) (m : Machine) : (m.acknowledged line).ram = m.ram := rfl

lemma dispatch_apply (line : Nat) (m : Machine) :
    dispatch line m = match m.ram.accessFault? (m.dispatchCells line) with
      | none => .ok () (m.dispatched line)
      | some fault => .error fault (m.dispatchBroken line) := by
  have hstart : dispatch line m = (do
      pushAll (m.acknowledged line).frame
      let vector ← readCell (vectorBase + line)
      emit (.interruptDispatched line (UInt8.ofNat m.pc) vector)
      setPc vector.toNat
      count fun s => { s with interruptsServiced := s.interruptsServiced + 1 } : Action Unit)
        (m.acknowledged line) := rfl
  rw [hstart, bind_apply, pushAll_apply, length_frame, stackPointer_acknowledged,
    ram_acknowledged, dispatchCells, Ram.accessFault?_append, dispatchBroken]
  cases hf : m.ram.accessFault? (cellsBelow m.registers.stackPointer 9) with
  | some fault => rfl
  | none =>
    rw [Option.none_or, Ram.accessFault?_cons, Ram.reach_eq_length _ hf, length_cellsBelow,
      List.take_of_length_le (by simp)]
    simp only [bind_apply, readCell_apply, size_ram_pushedAll, ram_acknowledged]
    by_cases h : vectorBase + line < m.ram.size
    · rw [if_pos h, if_pos h]
      simp only [emit_apply, setPc_apply, count_apply, dispatched, Ram.accessFault?_nil]
    · rw [if_neg h, if_neg h]

/-! ### What a dispatch leaves behind -/

@[simp] lemma registers_dispatched (line : Nat) (m : Machine) :
    (m.dispatched line).registers =
      (m.registers.write .status
        (m.registers.read .status &&& ~~~lineBit line)).setStackPointer
          (m.registers.stackPointer - UInt8.ofNat 9) := by
  rw [dispatched, registers_pushedAll, length_frame, stackPointer_acknowledged, acknowledged]

lemma pc_dispatched (line : Nat) (m : Machine) :
    (m.dispatched line).pc = ((m.dispatched line).ram.byte (vectorBase + line)).toNat := rfl

@[simp] lemma flags_dispatched (line : Nat) (m : Machine) :
    (m.dispatched line).flags = m.flags := by
  rw [dispatched, flags_pushedAll, acknowledged]

@[simp] lemma phase_dispatched (line : Nat) (m : Machine) :
    (m.dispatched line).phase = m.phase := by
  rw [dispatched, phase_pushedAll, acknowledged]

@[simp] lemma interruptsEnabled_dispatched (line : Nat) (m : Machine) :
    (m.dispatched line).interruptsEnabled = false := by
  rw [dispatched, interruptsEnabled_pushedAll, acknowledged]

@[simp] lemma tracing_dispatched (line : Nat) (m : Machine) :
    (m.dispatched line).tracing = m.tracing := by
  rw [dispatched, tracing_pushedAll, acknowledged]

@[simp] lemma statistics_dispatched (line : Nat) (m : Machine) :
    (m.dispatched line).statistics =
      { m.statistics with interruptsServiced := m.statistics.interruptsServiced + 1 } := by
  rw [dispatched, statistics_pushedAll, acknowledged]

@[simp] lemma output_dispatched (line : Nat) (m : Machine) :
    (m.dispatched line).output = m.output := by
  rw [dispatched, output_pushedAll, acknowledged]

@[simp] lemma size_ram_dispatched (line : Nat) (m : Machine) :
    (m.dispatched line).ram.size = m.ram.size := by
  rw [dispatched, size_ram_pushedAll, ram_acknowledged]

@[simp] lemma pc_dispatchBroken (line : Nat) (m : Machine) :
    (m.dispatchBroken line).pc = m.pc := by
  rw [dispatchBroken, pc_pushedAll, acknowledged]

@[simp] lemma statistics_dispatchBroken (line : Nat) (m : Machine) :
    (m.dispatchBroken line).statistics = m.statistics := by
  rw [dispatchBroken, statistics_pushedAll, acknowledged]

@[simp] lemma output_dispatchBroken (line : Nat) (m : Machine) :
    (m.dispatchBroken line).output = m.output := by
  rw [dispatchBroken, output_pushedAll, acknowledged]

@[simp] lemma interruptsEnabled_dispatchBroken (line : Nat) (m : Machine) :
    (m.dispatchBroken line).interruptsEnabled = false := by
  rw [dispatchBroken, interruptsEnabled_pushedAll, acknowledged]

@[simp] lemma size_ram_dispatchBroken (line : Nat) (m : Machine) :
    (m.dispatchBroken line).ram.size = m.ram.size := by
  rw [dispatchBroken, size_ram_pushedAll, ram_acknowledged]

/-- A dispatch writes nothing but its frame. -/
lemma cell?_dispatched_of_notMem {line address : Nat} {m : Machine}
    (h : address ∉ cellsBelow m.registers.stackPointer 9) :
    (m.dispatched line).ram.cell? address = m.ram.cell? address := by
  rw [dispatched]
  apply cell?_pushedAll_of_notMem
  rwa [length_frame, stackPointer_acknowledged]

/-- A dispatch stores its frame below the stack pointer. -/
lemma cell?_dispatched_frame {line : Nat} {m : Machine}
    (h : m.ram.accessFault? (m.dispatchCells line) = none) (i : Nat) (hi : i < 9) :
    (m.dispatched line).ram.cell? (m.registers.stackPointer - UInt8.ofNat (i + 1)).toNat =
      (m.acknowledged line).frame[i]? := by
  rw [dispatchCells, Ram.accessFault?_append, Option.or_eq_none_iff,
    Ram.accessFault?_eq_none_iff] at h
  have hindex : i < (m.acknowledged line).frame.length := by
    rw [length_frame]
    exact hi
  rw [dispatched, ← stackPointer_acknowledged line m, List.getElem?_eq_getElem hindex]
  apply cell?_pushedAll_getElem
  · rw [length_frame]
    decide
  · rw [length_frame, stackPointer_acknowledged, ram_acknowledged]
    exact h.1

/-! ### Dispatch when it is due -/

/-- The fault of the dispatch that is due, if one is due and it finds a cell missing. -/
def dispatchFault? (m : Machine) : Option Fault :=
  m.dueLine?.bind fun line => m.ram.accessFault? (m.dispatchCells line)

/-- The machine after the dispatch that is due, if one is due. -/
def serviced (m : Machine) : Machine :=
  match m.dueLine? with
  | some line => m.dispatched line
  | none => m

/-- The machine after the dispatch that is due, if one is due and it fails. -/
def serviceBroken (m : Machine) : Machine :=
  match m.dueLine? with
  | some line => m.dispatchBroken line
  | none => m

lemma serviceInterrupts_apply (m : Machine) :
    serviceInterrupts m = match m.dispatchFault? with
      | none => .ok () m.serviced
      | some fault => .error fault m.serviceBroken := by
  rw [serviceInterrupts, get_bind_apply, dispatchFault?, serviced, serviceBroken]
  cases m.dueLine? with
  | none => rfl
  | some line => exact dispatch_apply line m

lemma serviced_of_none {m : Machine} (h : m.dueLine? = none) : m.serviced = m := by
  rw [serviced, h]

lemma perform_serviceInterrupts {m : Machine} (h : m.dispatchFault? = none) :
    m.perform serviceInterrupts = (.ok (), m.serviced) := by
  rw [perform, serviceInterrupts_apply, h]

/-- A dispatch that was due and succeeded found all its cells. -/
lemma dispatched_of_perform {m entered : Machine} {line : Nat} (hdue : m.dueLine? = some line)
    (h : m.perform serviceInterrupts = (.ok (), entered)) :
    m.ram.accessFault? (m.dispatchCells line) = none ∧ entered = m.dispatched line := by
  rw [perform_eq_ok_iff, serviceInterrupts_apply, dispatchFault?, serviced, hdue,
    Option.bind_some] at h
  cases hfault : m.ram.accessFault? (m.dispatchCells line) with
  | some fault =>
    rw [hfault] at h
    cases h
  | none =>
    rw [hfault] at h
    cases h
    exact ⟨rfl, rfl⟩

@[simp] lemma phase_serviced (m : Machine) : m.serviced.phase = m.phase := by
  rw [serviced]
  cases m.dueLine? with
  | none => rfl
  | some line => exact phase_dispatched line m

@[simp] lemma output_serviced (m : Machine) : m.serviced.output = m.output := by
  rw [serviced]
  cases m.dueLine? with
  | none => rfl
  | some line => exact output_dispatched line m

@[simp] lemma size_ram_serviced (m : Machine) : m.serviced.ram.size = m.ram.size := by
  rw [serviced]
  cases m.dueLine? with
  | none => rfl
  | some line => exact size_ram_dispatched line m

@[simp] lemma size_ram_serviceBroken (m : Machine) : m.serviceBroken.ram.size = m.ram.size := by
  rw [serviceBroken]
  cases m.dueLine? with
  | none => rfl
  | some line => exact size_ram_dispatchBroken line m

@[simp] lemma pc_serviceBroken (m : Machine) : m.serviceBroken.pc = m.pc := by
  rw [serviceBroken]
  cases m.dueLine? with
  | none => rfl
  | some line => exact pc_dispatchBroken line m

@[simp] lemma statistics_serviceBroken (m : Machine) :
    m.serviceBroken.statistics = m.statistics := by
  rw [serviceBroken]
  cases m.dueLine? with
  | none => rfl
  | some line => exact statistics_dispatchBroken line m

@[simp] lemma output_serviceBroken (m : Machine) : m.serviceBroken.output = m.output := by
  rw [serviceBroken]
  cases m.dueLine? with
  | none => rfl
  | some line => exact output_dispatchBroken line m

/-- A dispatch disables interrupts. -/
lemma interruptsEnabled_serviced (m : Machine) :
    m.serviced.interruptsEnabled = (m.interruptsEnabled && !m.dueLine?.isSome) := by
  rw [serviced]
  cases m.dueLine? with
  | none => simp
  | some line => simp

/-- So does a dispatch that fails. -/
lemma interruptsEnabled_serviceBroken (m : Machine) :
    m.serviceBroken.interruptsEnabled = (m.interruptsEnabled && !m.dueLine?.isSome) := by
  rw [serviceBroken]
  cases m.dueLine? with
  | none => simp
  | some line => simp

/-- The program counter after a dispatch is a byte. -/
lemma pc_serviced_le (m : Machine) : m.serviced.pc ≤ max 255 m.pc := by
  rw [serviced]
  cases m.dueLine? with
  | none => exact Nat.le_max_right ..
  | some line =>
    have hvector := ((m.dispatched line).ram.byte (vectorBase + line)).toNat_lt
    rw [pc_dispatched]
    omega

/-- An interrupt is due on the lowest line that is pending under the mask, if interrupts are
enabled. -/
lemma dueLine?_eq_some_iff {m : Machine} {line : Nat} :
    m.dueLine? = some line ↔
      m.interruptsEnabled = true ∧ IsLowestLine m.registers.pending line := by
  rw [dueLine?, ← lowestLine?_eq_some_iff]
  by_cases h : m.interruptsEnabled = true
  · rw [if_pos h]
    exact (and_iff_right h).symm
  · rw [if_neg h]
    simp [h]

lemma dueLine?_eq_none_iff {m : Machine} :
    m.dueLine? = none ↔ m.interruptsEnabled = false ∨ m.registers.pending = 0 := by
  rw [dueLine?]
  by_cases h : m.interruptsEnabled = true
  · rw [if_pos h, lowestLine?_eq_none_iff]
    simp [h]
  · rw [if_neg h]
    simp [h]

/-! ## Return -/

lemma stackPointer_notMem : Register.stackPointer ∉ savedRegisters.reverse := by decide

/-- The machine after a return that found its cells as far as the registers. -/
def registersReturned (m : Machine) : Machine :=
  restored savedRegisters.reverse m

/-- The machine after a return that found its cells as far as the flags. -/
def flagsReturned (m : Machine) : Machine :=
  { m.registersReturned.popped with flags := Flags.ofBits m.registersReturned.top }

/-- The machine after a return that found all its cells. -/
def returned (m : Machine) : Machine :=
  { m.flagsReturned.popped with interruptsEnabled := true }

/-- The address at which a return goes on. -/
def returnAddress (m : Machine) : UInt8 :=
  m.flagsReturned.top

/-- The machine after a return that did not find all its cells: it has popped what it could. -/
def returnBroken (m : Machine) : Machine :=
  if m.ram.reach (cellsFrom m.registers.stackPointer 9) = 8 then m.flagsReturned
  else restored
    (savedRegisters.reverse.take (m.ram.reach (cellsFrom m.registers.stackPointer 9))) m

@[simp] lemma ram_registersReturned (m : Machine) : m.registersReturned.ram = m.ram :=
  ram_restored ..

@[simp] lemma ram_flagsReturned (m : Machine) : m.flagsReturned.ram = m.ram :=
  ram_registersReturned m

lemma stackPointer_registersReturned (m : Machine) :
    m.registersReturned.registers.stackPointer = m.registers.stackPointer + UInt8.ofNat 7 :=
  stackPointer_restored stackPointer_notMem m

lemma stackPointer_flagsReturned (m : Machine) :
    m.flagsReturned.registers.stackPointer = m.registers.stackPointer + UInt8.ofNat 8 := by
  have h := stackPointer_popped m.registersReturned
  rw [stackPointer_registersReturned, UInt8.add_assoc] at h
  exact h

lemma pop_registersReturned (m : Machine) :
    pop m.registersReturned =
      if (m.registers.stackPointer + UInt8.ofNat 7).toNat < m.ram.size then
        .ok m.registersReturned.top m.registersReturned.popped
      else
        .error (.memoryOutOfBounds (m.registers.stackPointer + UInt8.ofNat 7).toNat m.ram.size)
          m.registersReturned := by
  rw [pop_apply, stackPointer_registersReturned, ram_registersReturned]

lemma pop_flagsReturned (m : Machine) :
    pop m.flagsReturned =
      if (m.registers.stackPointer + UInt8.ofNat 8).toNat < m.ram.size then
        .ok m.returnAddress m.flagsReturned.popped
      else
        .error (.memoryOutOfBounds (m.registers.stackPointer + UInt8.ofNat 8).toNat m.ram.size)
          m.flagsReturned := by
  rw [pop_apply, stackPointer_flagsReturned, ram_flagsReturned, returnAddress]

lemma returnFromInterrupt_apply (m : Machine) :
    returnFromInterrupt m =
      match m.ram.accessFault? (cellsFrom m.registers.stackPointer 9) with
      | none => .ok (.jump m.returnAddress.toNat) m.returned
      | some fault => .error fault m.returnBroken := by
  have hlen : savedRegisters.reverse.length = 7 := by decide
  have hcells : cellsFrom m.registers.stackPointer 9 = cellsFrom m.registers.stackPointer 7 ++
      [(m.registers.stackPointer + UInt8.ofNat 7).toNat,
        (m.registers.stackPointer + UInt8.ofNat 8).toNat] := by
    rw [cellsFrom_add _ 7 2]
    congr 1
    rw [cellsFrom_succ, cellsFrom_succ, cellsFrom_zero, UInt8.add_assoc]
    rfl
  have hregisters := popInto_apply stackPointer_notMem m
  have hflags := pop_registersReturned m
  have haddress := pop_flagsReturned m
  rw [hlen] at hregisters
  rw [hcells, Ram.accessFault?_append, returnBroken, hcells, returnFromInterrupt]
  -- the nine pops fail among the first seven, at the eighth, at the ninth, or not at all
  cases hf : m.ram.accessFault? (cellsFrom m.registers.stackPointer 7) with
  | some fault =>
    rw [hf] at hregisters
    have hreach := Ram.reach_le_length m.ram (cellsFrom m.registers.stackPointer 7)
    rw [length_cellsFrom] at hreach
    rw [bind_of_error _ hregisters, Ram.reach_append_of_some _ hf, if_neg (by omega)]
    rfl
  | none =>
    rw [hf] at hregisters
    rw [bind_of_ok _ hregisters, Ram.reach_append_of_none _ hf, length_cellsFrom,
      Option.none_or, Ram.accessFault?_cons, Ram.reach_cons, Ram.accessFault?_cons,
      Ram.reach_cons]
    by_cases h7 : (m.registers.stackPointer + UInt8.ofNat 7).toNat < m.ram.size
    · rw [if_pos h7] at hflags
      rw [if_pos h7, if_pos h7, ← registersReturned, bind_of_ok _ hflags,
        bind_of_ok _ (setFlags_apply ..)]
      by_cases h8 : (m.registers.stackPointer + UInt8.ofNat 8).toNat < m.ram.size
      · rw [if_pos h8] at haddress
        rw [if_pos h8]
        exact bind_of_ok _ haddress
      · rw [if_neg h8] at haddress
        rw [if_neg h8, if_neg h8, if_pos rfl]
        exact bind_of_error _ haddress
    · rw [if_neg h7] at hflags
      rw [if_neg h7, if_neg h7, if_neg (by omega), ← registersReturned, bind_of_error _ hflags,
        List.take_of_length_le (by rw [hlen])]
      rfl

/-! ### What a return leaves behind -/

@[simp] lemma ram_returnBroken (m : Machine) : m.returnBroken.ram = m.ram := by
  rw [returnBroken]
  split
  · exact ram_flagsReturned m
  · exact ram_restored _ m

@[simp] lemma pc_returnBroken (m : Machine) : m.returnBroken.pc = m.pc := by
  rw [returnBroken]
  split
  · exact pc_restored savedRegisters.reverse m
  · exact pc_restored _ m

@[simp] lemma interruptsEnabled_returnBroken (m : Machine) :
    m.returnBroken.interruptsEnabled = m.interruptsEnabled := by
  rw [returnBroken]
  split
  · exact interruptsEnabled_restored savedRegisters.reverse m
  · exact interruptsEnabled_restored _ m

@[simp] lemma statistics_returnBroken (m : Machine) :
    m.returnBroken.statistics = m.statistics := by
  rw [returnBroken]
  split
  · exact statistics_restored savedRegisters.reverse m
  · exact statistics_restored _ m

@[simp] lemma output_returnBroken (m : Machine) : m.returnBroken.output = m.output := by
  rw [returnBroken]
  split
  · exact output_restored savedRegisters.reverse m
  · exact output_restored _ m

@[simp] lemma ram_returned (m : Machine) : m.returned.ram = m.ram := by
  rw [returned, ram_popped, ram_flagsReturned]

lemma stackPointer_returned (m : Machine) :
    m.returned.registers.stackPointer = m.registers.stackPointer + UInt8.ofNat 9 := by
  rw [returned, stackPointer_popped, stackPointer_flagsReturned, UInt8.add_assoc]
  rfl

/-- A return reads the registers from the cells that the stack pointer names first, `R6` from the
lowest of them. -/
lemma read_returned {r : Register} (hr : r ≠ .stackPointer) (m : Machine) :
    m.returned.registers.read r =
      m.ram.byte (m.registers.stackPointer + UInt8.ofNat (6 - r.val)).toNat := by
  have hlt : 6 - r.val < savedRegisters.reverse.length := by
    have hlen : savedRegisters.reverse.length = 7 := by decide
    omega
  have hindex : savedRegisters.reverse[6 - r.val] = r := by
    revert r
    decide
  have hkeep : m.returned.registers.read r = m.registersReturned.registers.read r :=
    (Registers.read_write_of_ne _ _ (Ne.symm hr)).trans
      (Registers.read_write_of_ne _ _ (Ne.symm hr))
  have hrow := read_restored_getElem stackPointer_notMem (by decide) m (6 - r.val) hlt
  rw [hindex] at hrow
  exact hkeep.trans hrow

lemma flags_returned (m : Machine) :
    m.returned.flags =
      Flags.ofBits (m.ram.byte (m.registers.stackPointer + UInt8.ofNat 7).toNat) := by
  have htop : m.registersReturned.top =
      m.ram.byte (m.registers.stackPointer + UInt8.ofNat 7).toNat := by
    rw [top, stackPointer_registersReturned, ram_registersReturned]
  rw [← htop]
  rfl

lemma returnAddress_eq (m : Machine) :
    m.returnAddress = m.ram.byte (m.registers.stackPointer + UInt8.ofNat 8).toNat := by
  rw [returnAddress, top, stackPointer_flagsReturned, ram_flagsReturned]

@[simp] lemma pc_returned (m : Machine) : m.returned.pc = m.pc :=
  pc_restored savedRegisters.reverse m

@[simp] lemma phase_returned (m : Machine) : m.returned.phase = m.phase :=
  phase_restored savedRegisters.reverse m

@[simp] lemma tracing_returned (m : Machine) : m.returned.tracing = m.tracing :=
  tracing_restored savedRegisters.reverse m

@[simp] lemma statistics_returned (m : Machine) : m.returned.statistics = m.statistics :=
  statistics_restored savedRegisters.reverse m

@[simp] lemma output_returned (m : Machine) : m.returned.output = m.output :=
  output_restored savedRegisters.reverse m

end Machine

end LS8
