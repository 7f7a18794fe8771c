import LS8.Proofs.Tick
import LS8.Simulator

/-!
# The machines that a program reaches

Loading succeeds if the configuration is valid and the program fits, and it leaves the program at
the start of a memory that is zero otherwise (`Machine.loaded`).  `Reached program c output` are
the machines that ticks reach from there, faulting ticks included.

What every tick preserves holds of all of them; this file has the invariants of the address space.
The memory keeps the number of cells that the configuration gave it, and the program counter names
a cell, the end of memory or some other byte: an instruction that ends with the last cell leaves
it at the end, and every jump goes to a byte.
-/

namespace LS8

/-! ## Loading -/

namespace Ram

lemma loadFrom_eq_ok_iff (ram : Ram) (address : Nat) (program : List UInt8)
    (h : address ≤ ram.size) :
    (ram.loadFrom address program).2 = .ok () ↔ address + program.length ≤ ram.size := by
  induction program generalizing ram address with
  | nil => simpa [loadFrom] using h
  | cons v rest ih =>
    rw [loadFrom, List.length_cons]
    split
    · rename_i hlt
      rw [ih _ _ (by rw [size_set]; exact hlt), size_set]
      omega
    · rename_i hge
      simp only [reduceCtorEq, false_iff]
      omega

/-- A program that does not fit ends at the end of memory. -/
lemma loadFrom_of_lt (ram : Ram) (address : Nat) (program : List UInt8) (h : address ≤ ram.size)
    (hlong : ram.size < address + program.length) :
    (ram.loadFrom address program).2 = .error (.memoryOutOfBounds ram.size ram.size) := by
  induction program generalizing ram address with
  | nil => exact absurd hlong (Nat.not_lt.2 h)
  | cons v rest ih =>
    rw [List.length_cons] at hlong
    rw [loadFrom]
    split
    · rename_i hlt
      rw [ih _ _ (by rw [size_set]; exact hlt) (by rw [size_set]; omega), size_set]
    · rename_i hge
      obtain rfl : address = ram.size := Nat.le_antisymm h (Nat.not_lt.1 hge)
      rfl

lemma toList_set (ram : Ram) (address : Nat) (v : UInt8) (h : address < ram.size) :
    (ram.set address v h).toList = ram.toList.set address v := by
  exact @Array.toList_set _ _ _ _ h

lemma length_toList (ram : Ram) : ram.toList.length = ram.size := rfl

/-- A program replaces the cells from its address on, as far as there are any, and no other. -/
lemma toList_loadFrom (ram : Ram) (address : Nat) (program : List UInt8) (h : address ≤ ram.size) :
    (ram.loadFrom address program).1.toList =
      ram.toList.take address ++ program.take (ram.size - address)
        ++ ram.toList.drop (address + program.length) := by
  induction program generalizing ram address with
  | nil => simp [loadFrom]
  | cons v rest ih =>
    rw [loadFrom, List.length_cons]
    split
    · rename_i hlt
      have hfront : (ram.toList.set address v).take (address + 1) =
          ram.toList.take address ++ [v] := by
        rw [List.take_add_one, List.take_set_of_le (Nat.le_refl _),
          List.getElem?_set_self (by rw [length_toList]; exact hlt)]
        rfl
      have hback : (ram.toList.set address v).drop (address + 1 + rest.length) =
          ram.toList.drop (address + (rest.length + 1)) := by
        rw [List.drop_set_of_lt (by omega)]
        congr 1
        omega
      have hroom : ram.size - address = ram.size - (address + 1) + 1 := by omega
      rw [ih _ _ (by rw [size_set]; omega), size_set, toList_set, hfront, hback, hroom,
        List.take_succ_cons]
      simp
    · rename_i hge
      obtain rfl : address = ram.size := Nat.le_antisymm h (Nat.not_lt.1 hge)
      have hrest : ram.toList.drop (ram.size + (rest.length + 1)) = [] :=
        List.drop_eq_nil_of_le (by rw [length_toList]; omega)
      rw [hrest, Nat.sub_self, List.take_zero, List.append_nil, List.append_nil,
        List.take_of_length_le (Nat.le_of_eq ram.length_toList)]

/-- The image of a loaded program: its bytes and then zeros. -/
lemma load_zeroed {n : Nat} {program : List UInt8} (h : program.length ≤ n) :
    ((zeroed n).load program).1 =
      ⟨(program ++ List.replicate (n - program.length) 0).toArray⟩ := by
  have hlist := toList_loadFrom (zeroed n) 0 program (Nat.zero_le _)
  have hzero : (zeroed n).toList = List.replicate n 0 := by simp [zeroed, toList]
  rw [hzero, List.take_zero, List.nil_append, Nat.zero_add, List.drop_replicate, size_zeroed,
    Nat.sub_zero, List.take_of_length_le h] at hlist
  rw [load, ← hlist]
  rfl

/-- A program that fits is loaded and counted. -/
lemma loadProgram_of_le {ram : Ram} {program : List UInt8} (h : program.length ≤ ram.size) :
    ram.loadProgram program = ((ram.load program).1, .ok program.length) := by
  have hok : (ram.load program).2 = .ok () :=
    (loadFrom_eq_ok_iff ram 0 program (Nat.zero_le _)).2 (by omega)
  rw [loadProgram]
  cases hload : ram.load program with
  | mk loaded answer =>
    obtain rfl : answer = .ok () := (congrArg Prod.snd hload).symm.trans hok
    rfl

/-- A program that does not is refused at the end of memory. -/
lemma loadProgram_of_lt {ram : Ram} {program : List UInt8} (h : ram.size < program.length) :
    ram.loadProgram program =
      ((ram.load program).1, .error (.tooLong (.memoryOutOfBounds ram.size ram.size))) := by
  have hfault : (ram.load program).2 = .error (.memoryOutOfBounds ram.size ram.size) :=
    loadFrom_of_lt ram 0 program (Nat.zero_le _) (by omega)
  rw [loadProgram]
  cases hload : ram.load program with
  | mk loaded answer =>
    obtain rfl : answer = _ := (congrArg Prod.snd hload).symm.trans hfault
    rfl

end Ram

/-- The machine of a program that has just been loaded. -/
def Machine.loaded (program : List UInt8) (c : Config) (output : Output) : Machine :=
  { initial ⟨(program ++ List.replicate (c.ramSize - program.length) 0).toArray⟩
      c.stackTop c.tracing output with
    journal := #[.programLoaded program.length] }

namespace Simulator

/-- A program is loaded if the configuration is valid and the program fits. -/
lemma load_eq_ok_iff {program : List UInt8} {c : Config} {output : Output} {s : Simulator} :
    load program c output = .ok s ↔
      c.Valid ∧ program.length ≤ c.ramSize
        ∧ s = ⟨Machine.loaded program c output, .ofConfig c, c.maxTicks⟩ := by
  rw [load, ← Config.validate_eq_ok_iff]
  cases c.validate with
  | error e => simp
  | ok valid =>
    by_cases hlength : program.length ≤ c.ramSize
    · rw [Ram.loadProgram_of_le (by rw [Ram.size_zeroed]; exact hlength), Ram.load_zeroed hlength]
      simp only [true_and, hlength, Except.ok.injEq]
      exact eq_comm
    · rw [Ram.loadProgram_of_lt (by rw [Ram.size_zeroed]; omega)]
      simp [hlength]

lemma load_of_lt {program : List UInt8} {c : Config} (output : Output) (hvalid : c.Valid)
    (hlong : c.ramSize < program.length) :
    load program c output =
      .error (.load (.tooLong (.memoryOutOfBounds c.ramSize c.ramSize))) := by
  rw [load, (Config.validate_eq_ok_iff c).2 hvalid,
    Ram.loadProgram_of_lt (by rw [Ram.size_zeroed]; exact hlong), Ram.size_zeroed]

end Simulator

namespace Machine

variable (m : Machine)

/-! ## What a step does to the address space -/

@[simp] lemma size_ram_carriedOut (i : Instruction) : (m.carriedOut i).ram.size = m.ram.size := by
  have hsize : (i.effect (m.traced i)).ram.size = m.ram.size := by
    rw [Instruction.size_ram_effect, (m.agrees_traced i).ram]
  rw [carriedOut]
  cases i.flow m <;> exact hsize

lemma size_ram_stepped : m.stepped.ram.size = m.ram.size := by
  rw [stepped]
  cases m.serviced.instruction? with
  | none => exact size_ram_serviced m
  | some i => rw [size_ram_carriedOut, size_ram_serviced]

lemma size_ram_stepBroken : m.stepBroken.ram.size = m.ram.size := by
  rw [stepBroken]
  split
  · exact size_ram_serviceBroken m
  · rw [Instruction.ram_broken, (m.serviced.agrees_traced _).ram, size_ram_serviced]
  · exact size_ram_serviced m

lemma pc_stepBroken_le : m.stepBroken.pc ≤ max 255 m.pc := by
  rw [stepBroken]
  split
  · rw [pc_serviceBroken]
    exact Nat.le_max_right ..
  · rw [Instruction.pc_broken, (m.serviced.agrees_traced _).pc]
    exact pc_serviced_le m
  · exact pc_serviced_le m

/-- An instruction moves the program counter past itself, to a byte, or not at all. -/
lemma pc_carriedOut_le (i : Instruction) (h : m.pc + 2 < m.ram.size) :
    (m.carriedOut i).pc ≤ max 255 m.ram.size := by
  have hpc : (i.effect (m.traced i)).pc = m.pc := by
    rw [Instruction.pc_effect, (m.agrees_traced i).pc]
  have hlength : i.length ≤ 3 := i.opcode.length_le_three
  rw [carriedOut]
  cases hflow : i.flow m with
  | next =>
    show (i.effect (m.traced i)).pc + i.length ≤ max 255 m.ram.size
    omega
  | jump target =>
    have htarget := Instruction.lt_of_flow_eq_jump i m hflow
    show target ≤ max 255 m.ram.size
    omega
  | halt =>
    show (i.effect (m.traced i)).pc ≤ max 255 m.ram.size
    omega

lemma pc_stepped_le (h : m.stepFault? = none) : m.stepped.pc ≤ max 255 m.ram.size := by
  obtain ⟨-, hfetch, i, hi, -⟩ := stepFault?_eq_none_iff.1 h
  rw [stepped, hi]
  have hle := pc_carriedOut_le m.serviced i
  rw [size_ram_serviced] at hle
  exact hle hfetch

lemma size_ram_tick : (m.perform tick).2.ram.size = m.ram.size := by
  by_cases h : m.phase = .halted
  · rw [perform, tick_of_halted h]
  · rw [perform, tick_apply h, ← m.agrees_begun.ram]
    cases m.stepFault? with
    | none => exact size_ram_stepped m.begun
    | some fault => exact size_ram_stepBroken m.begun

/-- One tick keeps the program counter inside memory, at its end, or on a byte. -/
lemma pc_tick_le (hpc : m.pc ≤ max 255 m.ram.size) :
    (m.perform tick).2.pc ≤ max 255 m.ram.size := by
  by_cases h : m.phase = .halted
  · rw [perform, tick_of_halted h]
    exact hpc
  · rw [perform, tick_apply h]
    have hbegun := m.agrees_begun
    cases hfault : m.stepFault? with
    | none =>
      have hle := pc_stepped_le m.begun (by rw [stepFault?_begun, hfault])
      rw [hbegun.ram] at hle
      exact hle
    | some fault =>
      have hle := pc_stepBroken_le m.begun
      rw [hbegun.pc] at hle
      show m.begun.stepBroken.pc ≤ max 255 m.ram.size
      omega

/-- The machine after some ticks. -/
def afterTicks : Nat → Machine → Machine
  | 0, m => m
  | k + 1, m => afterTicks k (m.perform tick).2

end Machine

/-! ## Reached machines -/

/-- The machine is reached by ticks from a loaded program. -/
inductive Reached (program : List UInt8) (c : Config) (output : Output) : Machine → Prop where
  /-- The program has just been loaded. -/
  | load {s : Simulator} (h : Simulator.load program c output = .ok s) :
      Reached program c output s.machine
  /-- One more tick, whatever its answer. -/
  | tick {m : Machine} (h : Reached program c output m) :
      Reached program c output (m.perform Machine.tick).2

namespace Reached

variable {program : List UInt8} {c : Config} {output : Output} {m : Machine}

/-- A program that fits is reached under every valid configuration. -/
lemma loaded (hvalid : c.Valid) (hfits : program.length ≤ c.ramSize) :
    Reached program c output (Machine.loaded program c output) :=
  Reached.load (Simulator.load_eq_ok_iff.2 ⟨hvalid, hfits, rfl⟩)

lemma afterTicks (h : Reached program c output m) (k : Nat) :
    Reached program c output (m.afterTicks k) := by
  induction k generalizing m with
  | zero => exact h
  | succ k ih => exact ih h.tick

lemma valid (h : Reached program c output m) : c.Valid := by
  induction h with
  | load hload => exact (Simulator.load_eq_ok_iff.1 hload).1
  | tick _ ih => exact ih

lemma size_ram (h : Reached program c output m) : m.ram.size = c.ramSize := by
  induction h with
  | load hload =>
    obtain ⟨-, hfits, rfl⟩ := Simulator.load_eq_ok_iff.1 hload
    show (program ++ List.replicate (c.ramSize - program.length) 0).toArray.size = c.ramSize
    simp only [List.size_toArray, List.length_append, List.length_replicate]
    omega
  | tick _ ih => rw [Machine.size_ram_tick, ih]

lemma size_ram_le (h : Reached program c output m) : m.ram.size ≤ 256 := by
  rw [h.size_ram]
  exact h.valid.2.1

/-- The program counter of a reached machine. -/
lemma pc_le (h : Reached program c output m) : m.pc ≤ max 255 m.ram.size := by
  induction h with
  | load hload =>
    obtain ⟨-, -, rfl⟩ := Simulator.load_eq_ok_iff.1 hload
    exact Nat.zero_le _
  | @tick m _ ih =>
    rw [Machine.size_ram_tick]
    exact m.pc_tick_le ih

end Reached

end LS8
