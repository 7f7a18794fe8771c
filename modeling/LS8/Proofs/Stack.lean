import LS8.Machine.Stack
import LS8.Proofs.Action

/-!
# The stack in memory

What a push and a pop answer and leave behind, one at a time (`push_apply`, `pop_apply`) and in a
row (`pushAll_apply`, `popInto_apply`).  In a row they fail at the first cell that lies outside
memory, and everything before it has happened by then.

A row of pushes writes the cells below the stack pointer, nearest first, and no other cell
(`cell?_pushedAll_getElem`, `cell?_pushedAll_of_notMem`): as long as there are at most 256 of
them, no two fall on one cell, wherever the stack pointer wraps.
-/

namespace LS8

/-! ## The cells around a stack pointer -/

/-- The addresses of the `k` cells below a stack pointer, nearest first. -/
def cellsBelow (sp : UInt8) (k : Nat) : List Nat :=
  (List.range k).map fun i => (sp - UInt8.ofNat (i + 1)).toNat

/-- The addresses of the `k` cells from a stack pointer upwards. -/
def cellsFrom (sp : UInt8) (k : Nat) : List Nat :=
  (List.range k).map fun i => (sp + UInt8.ofNat i).toNat

@[simp] lemma cellsBelow_zero (sp : UInt8) : cellsBelow sp 0 = [] := rfl

@[simp] lemma cellsFrom_zero (sp : UInt8) : cellsFrom sp 0 = [] := rfl

@[simp] lemma length_cellsBelow (sp : UInt8) (k : Nat) : (cellsBelow sp k).length = k := by
  simp [cellsBelow]

@[simp] lemma length_cellsFrom (sp : UInt8) (k : Nat) : (cellsFrom sp k).length = k := by
  simp [cellsFrom]

lemma sub_ofNat_succ (sp : UInt8) (i : Nat) :
    sp - UInt8.ofNat (i + 1) = sp - 1 - UInt8.ofNat i := by
  apply UInt8.toNat.inj
  simp only [UInt8.toNat_sub, UInt8.toNat_ofNat', UInt8.toNat_ofNat]
  omega

lemma add_ofNat_succ (sp : UInt8) (i : Nat) :
    sp + UInt8.ofNat (i + 1) = sp + 1 + UInt8.ofNat i := by
  apply UInt8.toNat.inj
  simp only [UInt8.toNat_add, UInt8.toNat_ofNat', UInt8.toNat_ofNat]
  omega

lemma cellsBelow_succ (sp : UInt8) (k : Nat) :
    cellsBelow sp (k + 1) = (sp - 1).toNat :: cellsBelow (sp - 1) k := by
  rw [cellsBelow, List.range_succ_eq_map, List.map_cons, List.map_map]
  congr 1
  exact List.map_congr_left fun i _ => congrArg UInt8.toNat (sub_ofNat_succ sp (i + 1))

lemma cellsFrom_succ (sp : UInt8) (k : Nat) :
    cellsFrom sp (k + 1) = sp.toNat :: cellsFrom (sp + 1) k := by
  rw [cellsFrom, List.range_succ_eq_map, List.map_cons, List.map_map]
  congr 1
  · simp
  · exact List.map_congr_left fun i _ => congrArg UInt8.toNat (add_ofNat_succ sp i)

lemma cellsFrom_add (sp : UInt8) (j k : Nat) :
    cellsFrom sp (j + k) = cellsFrom sp j ++ cellsFrom (sp + UInt8.ofNat j) k := by
  induction j generalizing sp with
  | zero => simp
  | succ j ih =>
    rw [Nat.add_right_comm, cellsFrom_succ, cellsFrom_succ, ih, List.cons_append, add_ofNat_succ]

lemma getElem?_cellsBelow (sp : UInt8) {j k : Nat} (h : j < k) :
    (cellsBelow sp k)[j]? = some (sp - UInt8.ofNat (j + 1)).toNat := by
  rw [cellsBelow, List.getElem?_map, List.getElem?_range h]
  rfl

lemma take_cellsBelow (sp : UInt8) {j k : Nat} (h : j ≤ k) :
    (cellsBelow sp k).take j = cellsBelow sp j := by
  rw [cellsBelow, ← List.map_take, List.take_range, Nat.min_eq_left h]
  rfl

lemma cellsFrom_concat (sp : UInt8) (k : Nat) :
    cellsFrom sp (k + 1) = cellsFrom sp k ++ [(sp + UInt8.ofNat k).toNat] := by
  rw [cellsFrom, List.range_succ, List.map_append]
  rfl

lemma take_cellsFrom (sp : UInt8) {j k : Nat} (h : j ≤ k) :
    (cellsFrom sp k).take j = cellsFrom sp j := by
  rw [cellsFrom, ← List.map_take, List.take_range, Nat.min_eq_left h]
  rfl

lemma Ram.lt_of_mem_cellsFrom_reach {ram : Ram} {sp : UInt8} {k address : Nat}
    (h : address ∈ cellsFrom sp (ram.reach (cellsFrom sp k))) : address < ram.size := by
  have hle := ram.reach_le_length (cellsFrom sp k)
  rw [length_cellsFrom] at hle
  rw [← take_cellsFrom sp hle] at h
  exact ram.lt_of_mem_take_reach h

lemma lt_of_mem_cellsBelow {sp : UInt8} {k address : Nat} (h : address ∈ cellsBelow sp k) :
    address < 256 := by
  obtain ⟨i, -, rfl⟩ := List.mem_map.1 h
  exact UInt8.toNat_lt _

lemma lt_of_mem_cellsFrom {sp : UInt8} {k address : Nat} (h : address ∈ cellsFrom sp k) :
    address < 256 := by
  obtain ⟨i, -, rfl⟩ := List.mem_map.1 h
  exact UInt8.toNat_lt _

/-- A stack pointer names none of the 255 cells below it. -/
lemma notMem_cellsBelow {sp : UInt8} {k : Nat} (hk : k ≤ 255) : sp.toNat ∉ cellsBelow sp k := by
  simp only [cellsBelow, List.mem_map, List.mem_range, not_exists, not_and]
  intro i hi heq
  have hsp := sp.toNat_lt
  simp only [UInt8.toNat_sub, UInt8.toNat_ofNat'] at heq
  omega

namespace Machine

/-! ## One push and one pop -/

/-- The machine after a push that found its cell. -/
def pushed (v : UInt8) (m : Machine) : Machine :=
  let sp := m.registers.stackPointer - 1
  { m with
    ram := m.ram.store sp.toNat v
    registers := m.registers.setStackPointer sp
    journal := m.journal.push (.pushed sp v) }

/-- The byte that the stack pointer names. -/
def top (m : Machine) : UInt8 :=
  m.ram.byte m.registers.stackPointer.toNat

/-- The machine after a pop that found its cell. -/
def popped (m : Machine) : Machine :=
  let sp := m.registers.stackPointer
  { m with
    registers := m.registers.setStackPointer (sp + 1)
    journal := m.journal.push (.popped sp m.top) }

lemma push_apply (v : UInt8) (m : Machine) :
    push v m =
      if (m.registers.stackPointer - 1).toNat < m.ram.size then .ok () (m.pushed v)
      else .error (.memoryOutOfBounds (m.registers.stackPointer - 1).toNat m.ram.size) m := by
  have hread : readRegister .stackPointer m = .ok m.registers.stackPointer m := rfl
  rw [push, bind_of_ok _ hread, bind_apply, writeCell_apply]
  by_cases h : (m.registers.stackPointer - 1).toNat < m.ram.size
  · rw [if_pos h, if_pos h]
    rfl
  · rw [if_neg h, if_neg h]

lemma pop_apply (m : Machine) :
    pop m =
      if m.registers.stackPointer.toNat < m.ram.size then .ok m.top m.popped
      else .error (.memoryOutOfBounds m.registers.stackPointer.toNat m.ram.size) m := by
  have hread : readRegister .stackPointer m = .ok m.registers.stackPointer m := rfl
  rw [pop, bind_of_ok _ hread, bind_apply, readCell_apply]
  by_cases h : m.registers.stackPointer.toNat < m.ram.size
  · rw [if_pos h, if_pos h]
    rfl
  · rw [if_neg h, if_neg h]

@[simp] lemma stackPointer_pushed (v : UInt8) (m : Machine) :
    (m.pushed v).registers.stackPointer = m.registers.stackPointer - 1 := by
  simp [pushed]

@[simp] lemma stackPointer_popped (m : Machine) :
    m.popped.registers.stackPointer = m.registers.stackPointer + 1 := by
  simp [popped]

@[simp] lemma size_ram_pushed (v : UInt8) (m : Machine) : (m.pushed v).ram.size = m.ram.size := by
  simp [pushed]

@[simp] lemma ram_popped (m : Machine) : m.popped.ram = m.ram := rfl

/-! ## Pushes in a row -/

/-- The machine after pushes that found their cells. -/
def pushedAll : List UInt8 → Machine → Machine
  | [], m => m
  | v :: rest, m => pushedAll rest (m.pushed v)

lemma pushAll_apply (vs : List UInt8) (m : Machine) :
    pushAll vs m = match m.ram.accessFault? (cellsBelow m.registers.stackPointer vs.length) with
      | none => .ok () (pushedAll vs m)
      | some fault =>
        .error fault (pushedAll
          (vs.take (m.ram.reach (cellsBelow m.registers.stackPointer vs.length))) m) := by
  induction vs generalizing m with
  | nil => rfl
  | cons v rest ih =>
    rw [List.length_cons, cellsBelow_succ, Ram.accessFault?_cons, Ram.reach_cons, pushAll,
      bind_apply, push_apply]
    by_cases h : (m.registers.stackPointer - 1).toNat < m.ram.size
    · rw [if_pos h, if_pos h, if_pos h]
      simp only [ih (m.pushed v), stackPointer_pushed, List.take_succ_cons, pushedAll]
      rw [Ram.accessFault?_congr (size_ram_pushed v m), Ram.reach_congr (size_ram_pushed v m)]
    · rw [if_neg h, if_neg h, if_neg h]
      rfl

/-- Pushes change the memory, the stack pointer and the journal alone. -/
lemma pushedAll_eq (vs : List UInt8) (m : Machine) :
    pushedAll vs m =
      { m with
        ram := (pushedAll vs m).ram
        registers := m.registers.setStackPointer
          (m.registers.stackPointer - UInt8.ofNat vs.length)
        journal := (pushedAll vs m).journal } := by
  induction vs generalizing m with
  | nil =>
    have hzero : m.registers.stackPointer - UInt8.ofNat 0 = m.registers.stackPointer := by simp
    have hsp : m.registers.setStackPointer m.registers.stackPointer = m.registers :=
      m.registers.write_read .stackPointer
    rw [List.length_nil, hzero, hsp]
    rfl
  | cons v rest ih =>
    have hsp : (m.pushed v).registers.setStackPointer
          ((m.pushed v).registers.stackPointer - UInt8.ofNat rest.length)
        = m.registers.setStackPointer
          (m.registers.stackPointer - UInt8.ofNat (rest.length + 1)) := by
      rw [stackPointer_pushed, sub_ofNat_succ]
      exact m.registers.write_write ..
    rw [pushedAll, ih (m.pushed v), hsp]
    rfl

@[simp] lemma registers_pushedAll (vs : List UInt8) (m : Machine) :
    (pushedAll vs m).registers = m.registers.setStackPointer
      (m.registers.stackPointer - UInt8.ofNat vs.length) := by
  rw [pushedAll_eq]

@[simp] lemma pc_pushedAll (vs : List UInt8) (m : Machine) :
    (pushedAll vs m).pc = m.pc := by
  rw [pushedAll_eq]

@[simp] lemma flags_pushedAll (vs : List UInt8) (m : Machine) :
    (pushedAll vs m).flags = m.flags := by
  rw [pushedAll_eq]

@[simp] lemma phase_pushedAll (vs : List UInt8) (m : Machine) :
    (pushedAll vs m).phase = m.phase := by
  rw [pushedAll_eq]

@[simp] lemma interruptsEnabled_pushedAll (vs : List UInt8) (m : Machine) :
    (pushedAll vs m).interruptsEnabled = m.interruptsEnabled := by
  rw [pushedAll_eq]

@[simp] lemma tracing_pushedAll (vs : List UInt8) (m : Machine) :
    (pushedAll vs m).tracing = m.tracing := by
  rw [pushedAll_eq]

@[simp] lemma statistics_pushedAll (vs : List UInt8) (m : Machine) :
    (pushedAll vs m).statistics = m.statistics := by
  rw [pushedAll_eq]

@[simp] lemma output_pushedAll (vs : List UInt8) (m : Machine) :
    (pushedAll vs m).output = m.output := by
  rw [pushedAll_eq]

@[simp] lemma size_ram_pushedAll (vs : List UInt8) (m : Machine) :
    (pushedAll vs m).ram.size = m.ram.size := by
  induction vs generalizing m with
  | nil => rfl
  | cons v rest ih => rw [pushedAll, ih, size_ram_pushed]

/-- A row of pushes leaves the cells alone that it does not reach. -/
lemma cell?_pushedAll_of_notMem {vs : List UInt8} {m : Machine} {address : Nat}
    (h : address ∉ cellsBelow m.registers.stackPointer vs.length) :
    (pushedAll vs m).ram.cell? address = m.ram.cell? address := by
  induction vs generalizing m with
  | nil => rfl
  | cons v rest ih =>
    rw [List.length_cons, cellsBelow_succ, List.mem_cons, not_or] at h
    rw [pushedAll, ih (by rw [stackPointer_pushed]; exact h.2)]
    exact m.ram.cell?_store_of_ne v (Ne.symm h.1)

/-- The byte pushed at position `i` of a row stands `i + 1` cells below the stack pointer. -/
lemma cell?_pushedAll_getElem {vs : List UInt8} {m : Machine} (hlen : vs.length ≤ 256)
    (hin : ∀ address ∈ cellsBelow m.registers.stackPointer vs.length, address < m.ram.size)
    (i : Nat) (hi : i < vs.length) :
    (pushedAll vs m).ram.cell? (m.registers.stackPointer - UInt8.ofNat (i + 1)).toNat =
      some vs[i] := by
  induction vs generalizing m i with
  | nil => simp at hi
  | cons v rest ih =>
    rw [List.length_cons] at hlen
    rw [List.length_cons, cellsBelow_succ, List.forall_mem_cons] at hin
    cases i with
    | zero =>
      -- the later pushes stay below the cell of the first one
      have hkeep : (m.registers.stackPointer - 1).toNat
          ∉ cellsBelow (m.pushed v).registers.stackPointer rest.length := by
        rw [stackPointer_pushed]
        exact notMem_cellsBelow (by omega)
      rw [pushedAll]
      show (pushedAll rest (m.pushed v)).ram.cell? (m.registers.stackPointer - 1).toNat = some v
      rw [cell?_pushedAll_of_notMem hkeep]
      exact m.ram.cell?_store_self v hin.1
    | succ i =>
      have hi' : i < rest.length := by simpa using hi
      have hin' : ∀ address ∈ cellsBelow (m.pushed v).registers.stackPointer rest.length,
          address < (m.pushed v).ram.size := by
        rw [stackPointer_pushed, size_ram_pushed]
        exact hin.2
      have hcell := ih (by omega) hin' i hi'
      rw [stackPointer_pushed, ← sub_ofNat_succ] at hcell
      rw [pushedAll]
      exact hcell

/-! ## Pops in a row -/

/-- The machine after pops into registers that found their cells. -/
def restored : List Register → Machine → Machine
  | [], m => m
  | r :: rest, m => restored rest { m.popped with registers := m.popped.registers.write r m.top }

lemma popInto_apply {rs : List Register} (hsp : Register.stackPointer ∉ rs) (m : Machine) :
    popInto rs m = match m.ram.accessFault? (cellsFrom m.registers.stackPointer rs.length) with
      | none => .ok () (restored rs m)
      | some fault =>
        .error fault
          (restored (rs.take (m.ram.reach (cellsFrom m.registers.stackPointer rs.length))) m) := by
  induction rs generalizing m with
  | nil => rfl
  | cons r rest ih =>
    rw [List.mem_cons, not_or] at hsp
    rw [List.length_cons, cellsFrom_succ, Ram.accessFault?_cons, Ram.reach_cons, popInto,
      bind_apply, pop_apply]
    by_cases h : m.registers.stackPointer.toNat < m.ram.size
    · have hnext : ({ m.popped with
            registers := m.popped.registers.write r m.top } : Machine).registers.stackPointer
          = m.registers.stackPointer + 1 := by
        rw [← stackPointer_popped]
        exact Registers.stackPointer_write_of_ne _ _ (Ne.symm hsp.1)
      rw [if_pos h, if_pos h, if_pos h]
      simp only [bind_apply, writeRegister_apply, ih hsp.2, hnext, ram_popped,
        List.take_succ_cons, restored]
    · rw [if_neg h, if_neg h, if_neg h]
      rfl

/-- Pops into registers change the registers and the journal alone. -/
lemma restored_eq (rs : List Register) (m : Machine) :
    restored rs m =
      { m with
        registers := (restored rs m).registers
        journal := (restored rs m).journal } := by
  induction rs generalizing m with
  | nil => rfl
  | cons r rest ih =>
    rw [restored, ih]
    rfl

@[simp] lemma pc_restored (rs : List Register) (m : Machine) :
    (restored rs m).pc = m.pc := by
  rw [restored_eq]

@[simp] lemma flags_restored (rs : List Register) (m : Machine) :
    (restored rs m).flags = m.flags := by
  rw [restored_eq]

@[simp] lemma ram_restored (rs : List Register) (m : Machine) :
    (restored rs m).ram = m.ram := by
  rw [restored_eq]

@[simp] lemma phase_restored (rs : List Register) (m : Machine) :
    (restored rs m).phase = m.phase := by
  rw [restored_eq]

@[simp] lemma interruptsEnabled_restored (rs : List Register) (m : Machine) :
    (restored rs m).interruptsEnabled = m.interruptsEnabled := by
  rw [restored_eq]

@[simp] lemma tracing_restored (rs : List Register) (m : Machine) :
    (restored rs m).tracing = m.tracing := by
  rw [restored_eq]

@[simp] lemma statistics_restored (rs : List Register) (m : Machine) :
    (restored rs m).statistics = m.statistics := by
  rw [restored_eq]

@[simp] lemma output_restored (rs : List Register) (m : Machine) :
    (restored rs m).output = m.output := by
  rw [restored_eq]

lemma stackPointer_restored {rs : List Register} (hsp : Register.stackPointer ∉ rs)
    (m : Machine) :
    (restored rs m).registers.stackPointer =
      m.registers.stackPointer + UInt8.ofNat rs.length := by
  induction rs generalizing m with
  | nil => simp [restored]
  | cons r rest ih =>
    rw [List.mem_cons, not_or] at hsp
    rw [restored, ih hsp.2, List.length_cons, add_ofNat_succ, ← stackPointer_popped,
      Registers.stackPointer_write_of_ne _ _ (Ne.symm hsp.1)]

/-- Pops leave the other registers alone, except for the stack pointer. -/
lemma read_restored_of_notMem {rs : List Register} {r : Register} (hsp : r ≠ .stackPointer)
    (hr : r ∉ rs) (m : Machine) : (restored rs m).registers.read r = m.registers.read r := by
  induction rs generalizing m with
  | nil => rfl
  | cons s rest ih =>
    rw [List.mem_cons, not_or] at hr
    rw [restored, ih hr.2, Registers.read_write_of_ne _ _ (Ne.symm hr.1)]
    exact Registers.read_write_of_ne _ _ (Ne.symm hsp)

/-- The register at position `i` of a row gets the byte `i` cells above the stack pointer. -/
lemma read_restored_getElem {rs : List Register} (hsp : Register.stackPointer ∉ rs)
    (hrs : rs.Nodup) (m : Machine) (i : Nat) (hi : i < rs.length) :
    (restored rs m).registers.read rs[i] =
      m.ram.byte (m.registers.stackPointer + UInt8.ofNat i).toNat := by
  induction rs generalizing m i with
  | nil => simp at hi
  | cons r rest ih =>
    rw [List.mem_cons, not_or] at hsp
    rw [List.nodup_cons] at hrs
    rw [restored]
    cases i with
    | zero =>
      rw [List.getElem_cons_zero, read_restored_of_notMem (Ne.symm hsp.1) hrs.1,
        Registers.read_write_self]
      simp [top]
    | succ i =>
      rw [List.getElem_cons_succ, ih hsp.2 hrs.2 _ i (by simpa using hi),
        Registers.stackPointer_write_of_ne _ _ (Ne.symm hsp.1), stackPointer_popped,
        add_ofNat_succ]
      rfl

-- Rows on a concrete list are never to be unrolled: the lemmas above say what they do.
attribute [irreducible] pushedAll restored

end Machine

end LS8
