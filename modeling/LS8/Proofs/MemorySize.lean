import LS8.Proofs.Lockstep

/-!
# More memory

A program cannot tell how large memory is except by a fault.  The stack wraps at 256 whatever the
number of cells, the interrupt vectors stand at fixed addresses, and an address beyond the last
cell is never folded back.  So a run that never leaves a memory is the same run in a larger one,
whose further cells stay zero (`larger_memory_same_run`).

The proof is a lockstep of the two machines under `Enlarges`.  A tick of the smaller machine that
faults out of bounds is excused: there the larger one may go on.
-/

namespace LS8

/-- A memory access fell outside memory. -/
def Fault.IsOutOfBounds : Fault → Prop
  | memoryOutOfBounds _ _ => True
  | _ => False

namespace Ram

/-- The second memory is the first with further cells, all zero. -/
structure Extends (ram ram' : Ram) : Prop where
  size_le : ram.size ≤ ram'.size
  cells : ∀ address, address < ram.size → ram'.cell? address = ram.cell? address
  blank : ∀ address, ram.size ≤ address → address < ram'.size → ram'.cell? address = some 0

namespace Extends

variable {ram ram' : Ram}

lemma byte (h : Extends ram ram') {address : Nat} (hlt : address < ram.size) :
    ram'.byte address = ram.byte address := by
  rw [Ram.byte, Ram.byte, h.cells address hlt]

/-- A store into the smaller memory is a store into the larger one. -/
lemma store (h : Extends ram ram') {address : Nat} (hlt : address < ram.size) (v : UInt8) :
    Extends (ram.store address v) (ram'.store address v) := by
  refine ⟨?_, ?_, ?_⟩
  · rw [size_store, size_store]
    exact h.size_le
  · intro other hother
    rw [size_store] at hother
    have hother' : other < ram'.size := Nat.lt_of_lt_of_le hother h.size_le
    rw [cell?_store, cell?_store, h.cells other hother]
    simp only [hother, hother', and_true]
  · intro other hge hother
    rw [size_store] at hge hother
    rw [ram'.cell?_store_of_ne v (by omega)]
    exact h.blank other hge hother

end Extends

/-- The image of a program in a larger memory. -/
lemma extends_image {n n' : Nat} {program : List UInt8} (hfits : program.length ≤ n)
    (hle : n ≤ n') :
    Extends ⟨(program ++ List.replicate (n - program.length) 0).toArray⟩
      ⟨(program ++ List.replicate (n' - program.length) 0).toArray⟩ := by
  have hsize : ∀ k, program.length ≤ k →
      (⟨(program ++ List.replicate (k - program.length) 0).toArray⟩ : Ram).size = k := by
    intro k hk
    simp only [size, List.size_toArray, List.length_append, List.length_replicate]
    omega
  have hcell : ∀ k, program.length ≤ k → ∀ address, address < k →
      (⟨(program ++ List.replicate (k - program.length) 0).toArray⟩ : Ram).cell? address =
        some (program[address]?.getD 0) := by
    intro k hk address hlt
    simp only [cell?, List.getElem?_toArray]
    by_cases hprogram : address < program.length
    · simp [List.getElem?_append_left hprogram, hprogram]
    · have hzero : address - program.length < k - program.length := by omega
      rw [List.getElem?_append_right (by omega), List.getElem?_replicate, if_pos hzero]
      simp [Nat.le_of_not_lt hprogram]
  refine ⟨?_, ?_, ?_⟩
  · rw [hsize n hfits, hsize n' (hfits.trans hle)]
    exact hle
  · intro address hlt
    rw [hsize n hfits] at hlt
    rw [hcell n hfits address hlt, hcell n' (hfits.trans hle) address (hlt.trans_le hle)]
  · intro address hge hlt
    rw [hsize n hfits] at hge
    rw [hsize n' (hfits.trans hle)] at hlt
    have hbeyond : program[address]? = none := List.getElem?_eq_none (hfits.trans hge)
    rw [hcell n' (hfits.trans hle) address hlt, hbeyond, Option.getD_none]

end Ram

namespace Machine

/-- The second machine is the first with a larger memory, apart from trace setting and journal. -/
structure Enlarges (m m' : Machine) : Prop where
  registers : m.registers = m'.registers
  pc : m.pc = m'.pc
  flags : m.flags = m'.flags
  phase : m.phase = m'.phase
  interruptsEnabled : m.interruptsEnabled = m'.interruptsEnabled
  statistics : m.statistics = m'.statistics
  output : m.output = m'.output
  ram : Ram.Extends m.ram m'.ram

namespace Enlarges

variable {m m' : Machine}

lemma count (f : Statistics → Statistics) :
    Lockstep Enlarges Fault.IsOutOfBounds (Machine.count f) :=
  fun _ _ h => ⟨rfl, { h with statistics := congrArg f h.statistics }⟩

lemma readCell (address : Nat) :
    Lockstep Enlarges Fault.IsOutOfBounds (Machine.readCell address) := by
  intro m m' h
  rw [readCell_apply, readCell_apply]
  by_cases hlt : address < m.ram.size
  · rw [if_pos hlt, if_pos (hlt.trans_le h.ram.size_le), h.ram.byte hlt]
    exact ⟨rfl, h⟩
  · rw [if_neg hlt]
    exact .of_excused trivial ..

lemma writeCell (address : Nat) (v : UInt8) :
    Lockstep Enlarges Fault.IsOutOfBounds (Machine.writeCell address v) := by
  intro m m' h
  rw [writeCell_apply, writeCell_apply]
  by_cases hlt : address < m.ram.size
  · rw [if_pos hlt, if_pos (hlt.trans_le h.ram.size_le)]
    exact ⟨rfl, { h with ram := h.ram.store hlt v }⟩
  · rw [if_neg hlt]
    exact .of_excused trivial ..

lemma print (v : UInt8) : Lockstep Enlarges Fault.IsOutOfBounds (Machine.print v) := by
  intro m m' h
  rw [print_apply, print_apply, h.output]
  exact ⟨rfl, { h with output := rfl }⟩

lemma simulation : Simulation Enlarges Fault.IsOutOfBounds where
  registers := Enlarges.registers
  pc := Enlarges.pc
  flags := Enlarges.flags
  phase := Enlarges.phase
  interruptsEnabled := Enlarges.interruptsEnabled
  withRegisters _ h := { h with registers := rfl }
  withPc _ h := { h with pc := rfl }
  withFlags _ h := { h with flags := rfl }
  withPhase _ h := { h with phase := rfl }
  withInterrupts _ h := { h with interruptsEnabled := rfl }
  emit e _ := .emit (fun _ _ _ _ h => { h with }) e
  recordDecoded := .recordDecoded fun _ _ _ _ h => { h with }
  recordHalted := .recordHalted fun _ _ _ _ h => { h with }
  countTick := count _
  countRetired _ := count _
  countBranch := count _
  countInterrupt := count _
  readCell := readCell
  writeCell := writeCell
  print v := .printOrFault (fun _ _ h => h.pc) (print v)

end Enlarges

/-- **More memory.**  As long as a program does not fault out of bounds, it runs in a larger memory
as it does in a smaller one, and never touches what is beyond the smaller one. -/
theorem larger_memory_same_run {program : List UInt8} {c : Config} {n : Nat} {output : Output}
    (hvalid : c.Valid) (hvalid' : { c with ramSize := n }.Valid) (hle : c.ramSize ≤ n)
    (hfits : program.length ≤ c.ramSize) :
    ∃ s s', Simulator.load program c output = .ok s
      ∧ Simulator.load program { c with ramSize := n } output = .ok s'
      ∧ ∀ k, (∀ j < k, ∀ address capacity, ((s.machine.afterTicks j).perform tick).1 ≠
            .error (.memoryOutOfBounds address capacity)) →
          (∀ j < k, ((s.machine.afterTicks j).perform tick).1 =
              ((s'.machine.afterTicks j).perform tick).1)
            ∧ Enlarges (s.machine.afterTicks k) (s'.machine.afterTicks k)
            ∧ (s.machine.afterTicks k).ram.size = c.ramSize
            ∧ (s'.machine.afterTicks k).ram.size = n := by
  have hload : Simulator.load program c output = .ok _ :=
    Simulator.load_eq_ok_iff.2 ⟨hvalid, hfits, rfl⟩
  have hload' : Simulator.load program { c with ramSize := n } output = .ok _ :=
    Simulator.load_eq_ok_iff.2 ⟨hvalid', hfits.trans hle, rfl⟩
  refine ⟨_, _, hload, hload', fun k hinside => ?_⟩
  have hloaded : Enlarges (loaded program c output)
      (loaded program { c with ramSize := n } output) :=
    ⟨rfl, rfl, rfl, rfl, rfl, rfl, rfl, Ram.extends_image hfits hle⟩
  obtain ⟨hresults, hrelated⟩ := Enlarges.simulation.afterTicks hloaded (k := k) <| by
    intro j hj fault hfault hexcused
    cases fault with
    | memoryOutOfBounds address capacity => exact hinside j hj address capacity hfault
    | _ => exact hexcused
  refine ⟨hresults, hrelated, ?_, ?_⟩
  · exact ((Reached.load hload).afterTicks k).size_ram
  · exact ((Reached.load hload').afterTicks k).size_ram

/-- A program that calls the instruction after the call, prints its address and halts. -/
def callingProgram : List UInt8 := [0x99, 0, 5, 0x48, 0, 0x43, 0, 0x01]

/-- In 245 cells the return address stands in the last one but one. -/
theorem larger_memory_same_run_calling :
    ∃ s', Simulator.load callingProgram {} .unlimited = .ok s'
      ∧ (s'.machine.afterTicks 4).phase = .halted
      ∧ (s'.machine.afterTicks 4).output.text = "5\n"
      ∧ (s'.machine.afterTicks 4).ram.cell? 243 = some 5
      ∧ (s'.machine.afterTicks 4).ram.cell? 245 = some 0 := by
  let small : Config := { ramSize := 245 }
  have hvalid : small.Valid := (Config.validate_eq_ok_iff _).1 rfl
  have hvalid' : ({ small with ramSize := 256 } : Config).Valid :=
    (Config.validate_eq_ok_iff _).1 rfl
  have hfits : callingProgram.length ≤ small.ramSize := by decide
  obtain ⟨s, s', hload, hload', hrun⟩ :=
    @larger_memory_same_run callingProgram small 256 .unlimited hvalid hvalid' (by decide) hfits
  have hmachine : s.machine = loaded callingProgram small .unlimited := by
    rw [(Simulator.load_eq_ok_iff.1 hload).2.2]
  have hquiet : ∀ j < 4, ((s.machine.afterTicks j).perform tick).1 = .ok () := by
    rw [hmachine]
    decide +kernel
  obtain ⟨-, hrelated, hsize, hsize'⟩ := hrun 4 fun j hj address capacity hfault => by
    rw [hquiet j hj] at hfault
    cases hfault
  have hcell : (s.machine.afterTicks 4).ram.cell? 243 = some 5 := by
    rw [hmachine]
    decide +kernel
  refine ⟨s', hload', ?_, ?_, ?_, ?_⟩
  · rw [← hrelated.phase, hmachine]
    decide +kernel
  · rw [← hrelated.output, hmachine]
    decide +kernel
  · rw [hrelated.ram.cells 243 (by rw [hsize]; decide), hcell]
  · exact hrelated.ram.blank 245 (by rw [hsize]) (by rw [hsize']; decide)

end Machine

end LS8
