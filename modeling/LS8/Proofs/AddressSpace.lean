import LS8.Proofs.Checked
import LS8.Proofs.History

/-!
# The address space

Everything that a reached machine does stays within the addresses that a byte and the end of
memory make up.  The program counter is a byte or the end of memory (`Reached.pc_le`).  Three bytes
are fetched for every instruction, however long it is, so an instruction that is decoded ends
before the last address: the address of the next one is a byte, and `CALL` pushes it as it is.  An
access that fails asked for a cell between the end of memory and address 256
(`address_of_stepFault?`).

With the program counter as small as that, every sum and every shift of a tick fits
(`Checked.tick_fits`).  `address_space` is all of it in one.
-/

namespace LS8

/-! ## Addresses of faults -/

namespace Instruction

variable {i : Instruction} {m : Machine} {address capacity : Nat}

lemma address_of_executionFault?
    (h : i.executionFault? m = some (.memoryOutOfBounds address capacity)) :
    m.ram.size ≤ address ∧ address < 256 ∧ capacity = m.ram.size := by
  obtain ⟨op, a, b⟩ := i
  cases op with
  | call =>
    obtain ⟨cell, hmem, hsize, hfault⟩ := Ram.accessFault?_eq_some _ h
    cases hfault
    exact ⟨hsize, lt_of_mem_cellsBelow hmem, rfl⟩
  | iret =>
    obtain ⟨cell, hmem, hsize, hfault⟩ := Ram.accessFault?_eq_some _ h
    cases hfault
    exact ⟨hsize, lt_of_mem_cellsFrom hmem, rfl⟩
  | div | int | prn =>
    simp only [executionFault?] at h
    split at h
    all_goals cases h
  | _ => cases h

lemma address_of_fault? (h : i.fault? m = some (.memoryOutOfBounds address capacity)) :
    m.ram.size ≤ address ∧ address < 256 ∧ capacity = m.ram.size := by
  rw [fault?, Option.or_eq_some_iff] at h
  rcases h with hoperand | ⟨-, hdemand⟩
  · obtain ⟨b, -, hfault⟩ := Option.map_eq_some_iff.1 hoperand
    cases hfault
  · exact address_of_executionFault? hdemand

end Instruction

namespace Machine

variable {m : Machine} {i : Instruction} {address capacity : Nat}

lemma address_of_dispatchFault?
    (h : m.dispatchFault? = some (.memoryOutOfBounds address capacity)) :
    m.ram.size ≤ address ∧ address < 256 ∧ capacity = m.ram.size := by
  obtain ⟨line, hdue, hcells⟩ := Option.bind_eq_some_iff.1 h
  obtain ⟨cell, hmem, hsize, hfault⟩ := Ram.accessFault?_eq_some _ hcells
  cases hfault
  refine ⟨hsize, ?_, rfl⟩
  rcases List.mem_append.1 hmem with hframe | hvector
  · exact lt_of_mem_cellsBelow hframe
  · -- the vector of the last line stands in the last cell that a byte can name
    have hlines : line < 8 := (dueLine?_eq_some_iff.1 hdue).2.lt
    have hcell : address = 0xF8 + line := List.mem_singleton.1 hvector
    omega

/-- A step that finds a cell missing asked for one between the end of memory and address 256. -/
lemma address_of_stepFault? (hpc : m.pc ≤ 256) (hsize : m.ram.size ≤ 256)
    (h : m.stepFault? = some (.memoryOutOfBounds address capacity)) :
    m.ram.size ≤ address ∧ address ≤ 256 ∧ capacity = m.ram.size := by
  rw [stepFault?, Option.or_eq_some_iff, Option.or_eq_some_iff] at h
  rcases h with hdispatch | ⟨-, hfetch | ⟨-, hinstruction⟩⟩
  · obtain ⟨hge, hlt, hcapacity⟩ := address_of_dispatchFault? hdispatch
    exact ⟨hge, Nat.le_of_lt hlt, hcapacity⟩
  · have hserviced := m.pc_serviced_le
    rw [fetchFault?, size_ram_serviced] at hfetch
    split at hfetch
    all_goals cases hfetch
    refine ⟨Nat.le_max_right .., ?_, rfl⟩
    omega
  · rw [instructionFault?] at hinstruction
    cases hi : m.serviced.instruction? with
    | none =>
      rw [hi] at hinstruction
      cases hinstruction
    | some i =>
      rw [hi] at hinstruction
      obtain ⟨hge, hlt, hcapacity⟩ := Instruction.address_of_fault? hinstruction
      rw [size_ram_serviced] at hge hcapacity
      exact ⟨hge, Nat.le_of_lt hlt, hcapacity⟩

/-! ## Decoded instructions -/

lemma size_ram_entered : m.entered.ram.size = m.ram.size := by
  cases hdispatch : m.dispatchFault? with
  | none => rw [entered_of_none m hdispatch, size_ram_serviced]
  | some fault => rw [entered_of_some hdispatch, size_ram_serviceBroken]

/-- An instruction that is decoded has two more cells after its opcode, whether it uses them or
not. -/
lemma lt_of_decode (h : (m.entered.perform decode).1 = .ok i) : m.entered.pc + 2 < m.ram.size := by
  obtain ⟨hfetch, -⟩ := perform_decode_eq_ok_iff.1 h
  rw [fetchFault?, size_ram_entered] at hfetch
  by_contra hge
  rw [if_neg hge] at hfetch
  cases hfetch

/-- A call leaves the address of the instruction after it on top of the stack. -/
lemma cell?_carriedOut_call (hi : i.opcode = .call) (hfault : i.fault? m = none) :
    (m.carriedOut i).ram.cell? (m.carriedOut i).registers.stackPointer.toNat =
      some (UInt8.ofNat (m.pc + 2)) := by
  obtain ⟨op, a, b⟩ := i
  obtain rfl : op = .call := hi
  rw [Instruction.fault?, Option.or_eq_none_iff] at hfault
  have hcell := Instruction.cell_of_executionFault? hfault.2
  have hagrees := m.agrees_traced ⟨.call, a, b⟩
  let called : Machine :=
    (m.traced ⟨.call, a, b⟩).pushed (UInt8.ofNat ((m.traced ⟨.call, a, b⟩).pc + 2))
  show called.ram.cell? called.registers.stackPointer.toNat = _
  rw [stackPointer_pushed, hagrees.registers]
  simp only [called, pushed, hagrees.registers, hagrees.ram, hagrees.pc]
  exact m.ram.cell?_store_self _ hcell

/-- The return address on the stack after a tick that retired a call. -/
lemma cell?_tick_of_call (h : m.retires? = some i) (hi : i.opcode = .call) :
    (m.perform tick).2.ram.cell? (m.perform tick).2.registers.stackPointer.toNat =
      some (UInt8.ofNat (m.entered.pc + 2)) := by
  rw [perform_tick_of_retires? h, ← (agrees_entered_of_retires? h).pc]
  exact cell?_carriedOut_call hi (fault?_of_retires? h)

/-- **The address space.**  On every run of a loaded program the memory keeps its cells and the
program counter is at most 256.  A decoded instruction and the two cells after its opcode lie in
memory, so the address that a call pushes is a byte; a cell that is found missing lies between the
end of memory and address 256; and on a processor with words of a certain width, which need not
hold any number above 259, no sum of a tick or of the state report fails to fit, no bit is shifted
out of a byte and every number of a register names one. -/
theorem address_space {program : List UInt8} {c : Config} {output : Output}
    (reached : Reached program c output m) :
    m.ram.size = c.ramSize
      ∧ m.pc ≤ max 255 c.ramSize
      ∧ m.pc ≤ 256
      ∧ (∀ i, (m.entered.perform decode).1 = .ok i →
          m.entered.pc + 2 < c.ramSize ∧ c.ramSize ≤ 256)
      ∧ (∀ i, m.retires? = some i → i.opcode = .call →
          ∃ ret, (m.perform tick).2.ram.cell?
              (m.perform tick).2.registers.stackPointer.toNat = some ret
            ∧ ret.toNat = m.entered.pc + 2)
      ∧ (∀ address capacity,
          (m.perform tick).1 = .error (.memoryOutOfBounds address capacity) →
          c.ramSize ≤ address ∧ address ≤ 256 ∧ capacity = c.ramSize)
      ∧ ∀ word, 259 ≤ word →
          Checked.Fits (Checked.tick word) tick m
            ∧ Checked.Fits (Checked.instructionText word) (pure m.instructionText) m := by
  have hsize := reached.size_ram
  have hcells := reached.size_ram_le
  have hpc := reached.pc_le
  have hdecoded : ∀ i, (m.entered.perform decode).1 = .ok i → m.entered.pc + 2 < c.ramSize := by
    intro i hi
    rw [← hsize]
    exact lt_of_decode hi
  refine ⟨hsize, by omega, by omega, ?_, ?_, ?_, ?_⟩
  · intro i hi
    exact ⟨hdecoded i hi, by omega⟩
  · intro i hi hcall
    have hlt := hdecoded i (decode_of_retires? hi)
    have hbyte : m.entered.pc + 2 < 256 := by omega
    exact ⟨_, cell?_tick_of_call hi hcall, UInt8.toNat_ofNat_of_lt' hbyte⟩
  · intro address capacity hfault
    cases m.outcome with
    | ignored hphase htick =>
      rw [htick] at hfault
      cases hfault
    | retired i hphase hretires htick =>
      rw [htick] at hfault
      cases hfault
    | faulted fault hphase hretires htick =>
      obtain ⟨hstep, -⟩ := tick_eq_error hphase htick
      rw [htick] at hfault
      cases hfault
      rw [← hsize]
      exact address_of_stepFault? (by omega) hcells hstep
  · intro word hword
    have hnear : m.pc + 3 ≤ word := by omega
    exact ⟨Checked.tick_fits hnear hcells (by omega), Checked.instructionText_fits hnear⟩

/-- A program that calls the last cell but one, where no instruction fits. -/
def strayCall : List UInt8 :=
  [0x99, 0, 0xFE, 0x48, 0]

/-- The call pushes the address 5 and jumps, and the fetch at its target asks for the cell right
after the last one. -/
theorem address_space_strayCall :
    ∃ called, Reached strayCall {} .unlimited called
      ∧ called.ram.size = 256
      ∧ called.ram.cell? called.registers.stackPointer.toNat = some 5
      ∧ (called.perform tick).1 = .error (.memoryOutOfBounds 256 256)
      ∧ Checked.Fits (Checked.tick 259) tick called := by
  have hvalid : Config.Valid {} := (Config.validate_eq_ok_iff _).1 rfl
  have hcaller : Reached strayCall {} .unlimited ((loaded strayCall {} .unlimited).afterTicks 1) :=
    (Reached.loaded hvalid (by decide)).afterTicks 1
  have hretires : ((loaded strayCall {} .unlimited).afterTicks 1).retires? =
      some ⟨.call, 0, 0⟩ := by
    decide +kernel
  have hfault : ((((loaded strayCall {} .unlimited).afterTicks 1).perform tick).2.perform tick).1 =
      .error (.memoryOutOfBounds 256 256) := by
    decide +kernel
  have hplace : ((loaded strayCall {} .unlimited).afterTicks 1).entered.pc = 3 := by decide +kernel
  obtain ⟨-, -, -, -, hcall, -, -⟩ := address_space hcaller
  obtain ⟨ret, hcell, hret⟩ := hcall _ hretires rfl
  obtain ⟨hsize, -, -, -, -, -, hfits⟩ := address_space hcaller.tick
  refine ⟨_, hcaller.tick, hsize, ?_, hfault, (hfits 259 (Nat.le_refl _)).1⟩
  obtain rfl : ret = 5 := UInt8.toNat.inj (by rw [hret, hplace]; rfl)
  exact hcell

end Machine

end LS8
