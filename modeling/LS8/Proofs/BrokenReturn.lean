import LS8.Proofs.Journal

/-!
# Returns that fault

A return pops nine bytes one after the other and stores each before it pops the next.  When it
comes to a cell that does not exist, what it has popped until then stays in the registers, and the
stack pointer stays where it got to: `StopsAfter` is the machine that it leaves behind, after any
number of pops.  So a return that faults leaves the machine as it was only if it faults at once,
which is to say if the stack pointer itself names no cell
(`returnFromInterrupt_fault_keeps_pops`).
-/

namespace LS8.Machine

/-- A return in `before` has come to its end after `k` pops and has led to `after`. -/
structure StopsAfter (k : Nat) (before after : Machine) : Prop where
  /-- The stack pointer has gone up with every pop. -/
  stackPointer : after.registers.stackPointer = before.registers.stackPointer + UInt8.ofNat k
  /-- The registers from `R6` downwards are from the stack, as many as there were pops. -/
  registers : ∀ r, r ≠ .stackPointer → after.registers.read r =
    if 6 - r.val < k then
      before.ram.byte (before.registers.stackPointer + UInt8.ofNat (6 - r.val)).toNat
    else before.registers.read r
  /-- The flags are from the stack if there was an eighth pop. -/
  flags : after.flags =
    if k = 8 then Flags.ofBits (before.ram.byte (before.registers.stackPointer + 7).toNat)
    else before.flags
  /-- The program counter is as it was. -/
  pc : after.pc = before.pc
  /-- So is the memory. -/
  ram : after.ram = before.ram
  /-- So is the interrupt enable. -/
  interruptsEnabled : after.interruptsEnabled = before.interruptsEnabled
  /-- Nothing is counted. -/
  statistics : after.statistics = before.statistics
  /-- Nothing is printed. -/
  output : after.output = before.output

/-! ## The registers that come back -/

/-- Each register has its place in the order in which a return pops. -/
lemma getElem_reverse_savedRegisters {r : Register} (hr : r ≠ .stackPointer) :
    savedRegisters.reverse[6 - r.val]? = some r := by
  revert r
  decide

lemma getElem?_take_savedRegisters {r : Register} (hr : r ≠ .stackPointer) {k : Nat}
    (hk : 6 - r.val < k) : (savedRegisters.reverse.take k)[6 - r.val]? = some r := by
  rw [List.getElem?_take_of_lt hk, getElem_reverse_savedRegisters hr]

/-- A register whose turn has not come is not among those that were popped. -/
lemma notMem_take_savedRegisters {r : Register} (hr : r ≠ .stackPointer) {k : Nat}
    (hk : k ≤ 6 - r.val) : r ∉ savedRegisters.reverse.take k := by
  have hnodup : savedRegisters.reverse.Nodup := by decide
  intro hmem
  obtain ⟨i, hi, hri⟩ := List.mem_take_iff_getElem.1 hmem
  have hplace := getElem_reverse_savedRegisters hr
  obtain ⟨hlt, hget⟩ := List.getElem?_eq_some_iff.1 hplace
  have hsame : i = 6 - r.val := (hnodup.getElem_inj_iff).1 (hri.trans hget.symm)
  omega

/-- After some pops into registers, those whose turn has come are from the stack. -/
lemma read_restored_take {r : Register} (hr : r ≠ .stackPointer) (k : Nat) (m : Machine) :
    (restored (savedRegisters.reverse.take k) m).registers.read r =
      if 6 - r.val < k then m.ram.byte (m.registers.stackPointer + UInt8.ofNat (6 - r.val)).toNat
      else m.registers.read r := by
  by_cases hk : 6 - r.val < k
  · have hsp : Register.stackPointer ∉ savedRegisters.reverse.take k :=
      fun hmem => stackPointer_notMem (List.mem_of_mem_take hmem)
    have hnodup : (savedRegisters.reverse.take k).Nodup :=
      List.Nodup.sublist (List.take_sublist k _) (by decide)
    obtain ⟨hi, hget⟩ := List.getElem?_eq_some_iff.1 (getElem?_take_savedRegisters hr hk)
    have hread := read_restored_getElem hsp hnodup m (6 - r.val) hi
    rw [hget] at hread
    rw [if_pos hk, hread]
  · rw [if_neg hk, read_restored_of_notMem hr (notMem_take_savedRegisters hr (Nat.le_of_not_lt hk))]

/-! ## The machine that is left behind -/

lemma stopsAfter_restored {k : Nat} (hk : k < 8) (m : Machine) :
    StopsAfter k m (restored (savedRegisters.reverse.take k) m) where
  stackPointer := by
    have hlength : (savedRegisters.reverse.take k).length = k := by
      have hseven : savedRegisters.reverse.length = 7 := by decide
      rw [List.length_take, hseven]
      omega
    have hnot : Register.stackPointer ∉ savedRegisters.reverse.take k := fun hmem =>
      stackPointer_notMem (List.mem_of_mem_take hmem)
    have hsp := stackPointer_restored hnot m
    rwa [hlength] at hsp
  registers r hr := read_restored_take hr k m
  flags := by rw [flags_restored, if_neg (by omega)]
  pc := pc_restored _ m
  ram := ram_restored _ m
  interruptsEnabled := interruptsEnabled_restored _ m
  statistics := statistics_restored _ m
  output := output_restored _ m

lemma stopsAfter_flagsReturned (m : Machine) : StopsAfter 8 m m.flagsReturned where
  stackPointer := stackPointer_flagsReturned m
  registers r hr := by
    have hrow := read_restored_take hr 8 m
    rw [List.take_of_length_le (by decide)] at hrow
    exact (Registers.read_write_of_ne _ _ (Ne.symm hr)).trans hrow
  flags := flags_returned m
  pc := pc_restored _ m
  ram := ram_flagsReturned m
  interruptsEnabled := interruptsEnabled_restored savedRegisters.reverse m
  statistics := statistics_restored savedRegisters.reverse m
  output := output_restored savedRegisters.reverse m

lemma stopsAfter_returnBroken {m : Machine}
    (h : m.ram.reach (cellsFrom m.registers.stackPointer 9) < 9) :
    StopsAfter (m.ram.reach (cellsFrom m.registers.stackPointer 9)) m m.returnBroken := by
  rw [returnBroken]
  split
  · rename_i height
    rw [height]
    exact stopsAfter_flagsReturned m
  · exact stopsAfter_restored (by omega) m

namespace StopsAfter

variable {k : Nat} {before after : Machine}

/-- A return that has popped nothing has changed nothing. -/
lemma agrees_of_zero (h : StopsAfter 0 before after) : Agrees after before := by
  refine ⟨Registers.ext_read fun r => ?_, h.pc, h.flags, h.ram, h.interruptsEnabled⟩
  by_cases hr : r = .stackPointer
  · subst hr
    exact h.stackPointer.trans (UInt8.add_zero _)
  · rw [h.registers r hr, if_neg (Nat.not_lt_zero _)]

/-- Every pop shows, at least at the stack pointer. -/
lemma agrees_iff (h : StopsAfter k before after) (hk : k < 9) : Agrees after before ↔ k = 0 := by
  constructor
  · intro hagrees
    have hsp := congrArg UInt8.toNat h.stackPointer
    have hbound := before.registers.stackPointer.toNat_lt
    rw [hagrees.registers, UInt8.toNat_add, UInt8.toNat_ofNat'] at hsp
    omega
  · rintro rfl
    exact h.agrees_of_zero

end StopsAfter

/-- Cells from the stack pointer on of which one does not exist: there are so many before it, and
it is the one that the fault names. -/
lemma cells_until_fault {ram : Ram} {sp : UInt8} {n : Nat} {fault : Fault}
    (h : ram.accessFault? (cellsFrom sp n) = some fault) :
    ram.reach (cellsFrom sp n) < n
      ∧ (∀ i < ram.reach (cellsFrom sp n), (sp + UInt8.ofNat i).toNat < ram.size)
      ∧ ram.size ≤ (sp + UInt8.ofNat (ram.reach (cellsFrom sp n))).toNat
      ∧ fault = .memoryOutOfBounds (sp + UInt8.ofNat (ram.reach (cellsFrom sp n))).toNat
          ram.size := by
  have hlt : ram.reach (cellsFrom sp n) < n := by
    have hle := ram.reach_le_length (cellsFrom sp n)
    rw [length_cellsFrom] at hle
    refine Nat.lt_of_le_of_ne hle fun hall => ?_
    rw [ram.accessFault?_of_reach_eq (by rw [length_cellsFrom, hall])] at h
    cases h
  have hmissed : (cellsFrom sp n)[ram.reach (cellsFrom sp n)]? =
      some (sp + UInt8.ofNat (ram.reach (cellsFrom sp n))).toNat := by
    rw [cellsFrom, List.getElem?_map, ← cellsFrom, List.getElem?_range hlt, Option.map_some]
  obtain ⟨address, -, houtside, hnames⟩ := Ram.accessFault?_eq_some _ h
  obtain rfl := Option.some.inj (h.symm.trans (ram.accessFault?_of_getElem?_reach hmissed))
  obtain ⟨rfl, -⟩ := Fault.memoryOutOfBounds.inj hnames
  exact ⟨hlt, fun i hi => Ram.lt_of_mem_cellsFrom_reach (k := n)
    (List.mem_map.2 ⟨i, List.mem_range.2 hi, rfl⟩), houtside, rfl⟩

/-- **A return that faults keeps what it has popped.**  It faults at the first of its nine cells
that does not exist, and leaves program counter, memory and interrupt enable alone.  The registers,
the stack pointer and the flags have changed by the pops before that cell, so it is only at the
very first cell that a return faults without a trace. -/
theorem returnFromInterrupt_fault_keeps_pops {m m' : Machine} {fault : Fault}
    (h : m.perform returnFromInterrupt = (.error fault, m')) :
    ∃ k < 9, (∀ i < k, (m.registers.stackPointer + UInt8.ofNat i).toNat < m.ram.size)
      ∧ m.ram.size ≤ (m.registers.stackPointer + UInt8.ofNat k).toNat
      ∧ fault = .memoryOutOfBounds (m.registers.stackPointer + UInt8.ofNat k).toNat m.ram.size
      ∧ StopsAfter k m m'
      ∧ (Agrees m' m ↔ m.ram.size ≤ m.registers.stackPointer.toNat) := by
  have happly := returnFromInterrupt_apply m
  rw [perform] at h
  cases hcells : m.ram.accessFault? (cellsFrom m.registers.stackPointer 9) with
  | none =>
    rw [happly, hcells] at h
    cases h
  | some fault' =>
    rw [happly, hcells] at h
    cases h
    obtain ⟨hlt, hfound, houtside, hfault⟩ := cells_until_fault hcells
    set k := m.ram.reach (cellsFrom m.registers.stackPointer 9) with hk
    have hstops : StopsAfter k m m.returnBroken := stopsAfter_returnBroken hlt
    refine ⟨k, hlt, hfound, houtside, hfault, hstops, (hstops.agrees_iff hlt).trans ?_⟩
    have hfirst : (m.registers.stackPointer + UInt8.ofNat 0).toNat =
        m.registers.stackPointer.toNat :=
      congrArg UInt8.toNat (UInt8.add_zero _)
    constructor
    · intro hzero
      rwa [hzero, hfirst] at houtside
    · intro hnone
      by_contra hpos
      have hcell := hfound 0 (Nat.pos_of_ne_zero hpos)
      omega

/-- A program of one return over a memory of sixteen cells, whose stack is the last of them. -/
def shortStackProgram : List UInt8 := 0x0B :: List.replicate 14 0 ++ [0x42]

/-- The configuration of that memory. -/
def shortStackConfig : Config := { ramSize := 16, stackTop := 15 }

def shortStack : Machine :=
  loaded shortStackProgram shortStackConfig .unlimited

/-- The return faults at its second pop.  By then the stack pointer has moved and `R6` is lost. -/
theorem returnFromInterrupt_fault_keeps_pops_shortStack :
    ∃ m', shortStack.perform returnFromInterrupt = (.error (.memoryOutOfBounds 16 16), m')
      ∧ StopsAfter 1 shortStack m' ∧ ¬ Agrees m' shortStack := by
  have hsize : shortStack.ram.size = 16 := by decide +kernel
  have hsp : shortStack.registers.stackPointer = 15 := by decide +kernel
  have hreturn : shortStack.perform returnFromInterrupt = (.error (.memoryOutOfBounds 16 16),
      (shortStack.perform returnFromInterrupt).2) :=
    Prod.ext (by decide +kernel) rfl
  obtain ⟨k, hlt, hfound, -, hfault, hstops, hagrees⟩ :=
    returnFromInterrupt_fault_keeps_pops hreturn
  rw [hsize, hsp] at hfault hagrees
  obtain rfl : k = 1 := by
    have hcell := (Fault.memoryOutOfBounds.inj hfault).1
    rw [UInt8.toNat_add, UInt8.toNat_ofNat'] at hcell
    have h15 : (15 : UInt8).toNat = 15 := rfl
    omega
  exact ⟨_, hreturn, hstops, fun hsame => absurd (hagrees.1 hsame) (by decide)⟩

/-- The program is loaded under a valid configuration, its return faults, and the registers are not
those from before. -/
theorem brokenReturn_loses_registers :
    (∃ s, Simulator.load shortStackProgram shortStackConfig .unlimited = .ok s
        ∧ s.machine = shortStack)
      ∧ (∃ fault, (shortStack.perform returnFromInterrupt).1 = .error fault)
      ∧ shortStack.registers.stackPointer = 15
      ∧ (shortStack.perform returnFromInterrupt).2.registers.stackPointer = 16
      ∧ shortStack.registers.read .status = 0
      ∧ (shortStack.perform returnFromInterrupt).2.registers.read .status = 0x42 := by
  refine ⟨⟨_, Simulator.load_eq_ok_iff.2
    ⟨(Config.validate_eq_ok_iff _).1 rfl, by decide, rfl⟩, rfl⟩,
    ⟨.memoryOutOfBounds 16 16, ?_⟩, ?_⟩
  all_goals decide +kernel

end LS8.Machine
