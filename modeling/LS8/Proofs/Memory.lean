import LS8.Ram
import LS8.Registers
import Mathlib.Data.List.TakeWhile
import Mathlib.Tactic.Common

/-!
# Cells and registers, one at a time

Two views that the rest of the theory looks through: `Ram.cell?`, the byte in a memory cell, and
`Registers.read`.  A memory is its cells (`Ram.ext_toList`), a store changes one of them
(`Ram.cell?_store`), and the checked accesses `Ram.read` and `Ram.write` are a lookup and a store
behind the same test (`Ram.read_eq`, `Ram.write_eq`).

An access to several cells in a row fails at the first of them that does not exist.
`Ram.outside?` is that cell and `Ram.accessFault?` the fault that it causes.
-/

namespace LS8

namespace Ram

variable (ram : Ram)

/-! ## Cells -/

/-- The byte in a cell, if there is such a cell. -/
def cell? (address : Nat) : Option UInt8 :=
  ram.cells[address]?

/-- The byte in a cell, zero if there is no such cell. -/
def byte (address : Nat) : UInt8 :=
  (ram.cell? address).getD 0

/-- The memory with a byte stored in a cell, the same memory if there is no such cell. -/
def store (address : Nat) (v : UInt8) : Ram :=
  ⟨ram.cells.setIfInBounds address v⟩

@[simp] lemma size_store (address : Nat) (v : UInt8) : (ram.store address v).size = ram.size := by
  simp [store, size]

lemma cell?_eq_none_iff {address : Nat} : ram.cell? address = none ↔ ram.size ≤ address := by
  simp [cell?, size]

lemma cell?_of_lt {address : Nat} (h : address < ram.size) :
    ram.cell? address = some (ram.byte address) := by
  have hcell : ram.cells[address]? = some ram.cells[address] := Array.getElem?_eq_getElem h
  simp [byte, cell?, hcell]

lemma lt_size_of_cell? {address : Nat} {v : UInt8} (h : ram.cell? address = some v) :
    address < ram.size := by
  by_contra hge
  rw [(cell?_eq_none_iff ram).2 (Nat.le_of_not_lt hge)] at h
  cases h

lemma cell?_store (address other : Nat) (v : UInt8) :
    (ram.store address v).cell? other =
      if address = other ∧ other < ram.size then some v else ram.cell? other := by
  simp only [cell?, store, size, Array.getElem?_setIfInBounds]
  by_cases he : address = other
  · subst he
    by_cases hlt : address < ram.cells.size
    · simp [hlt]
    · simp [hlt]
  · simp [he]

lemma cell?_store_of_ne {address other : Nat} (v : UInt8) (h : address ≠ other) :
    (ram.store address v).cell? other = ram.cell? other := by
  rw [cell?_store, if_neg (fun hc => h hc.1)]

lemma cell?_store_self {address : Nat} (v : UInt8) (h : address < ram.size) :
    (ram.store address v).cell? address = some v := by
  rw [cell?_store, if_pos ⟨rfl, h⟩]

/-- A memory is its cells. -/
lemma ext_toList {ram ram' : Ram} (h : ram.toList = ram'.toList) : ram = ram' := by
  obtain ⟨cells⟩ := ram
  obtain ⟨cells'⟩ := ram'
  exact congrArg Ram.mk (Array.toList_inj.1 h)

/-! ## Checked accesses -/

lemma read_eq (address : Nat) :
    ram.read address = if address < ram.size then .ok (ram.byte address)
      else .error (.memoryOutOfBounds address ram.size) := by
  unfold read
  by_cases h : address < ram.size
  · have hcell : ram.cells[address]? = some (ram.byte address) := cell?_of_lt ram h
    rw [if_pos h, hcell]
  · have hcell : ram.cells[address]? = none := (cell?_eq_none_iff ram).2 (Nat.le_of_not_lt h)
    rw [if_neg h, hcell]

lemma write_eq (address : Nat) (v : UInt8) :
    ram.write address v = if address < ram.size then .ok (ram.store address v)
      else .error (.memoryOutOfBounds address ram.size) := by
  unfold write
  by_cases h : address < ram.size
  · have hlt : address < ram.cells.size := h
    rw [dif_pos h, if_pos h, set, store, Array.setIfInBounds, dif_pos hlt]
  · rw [dif_neg h, if_neg h]

/-! ## Accesses to several cells in a row -/

/-- The first of some cells that lies outside memory. -/
def outside? (addresses : List Nat) : Option Nat :=
  addresses.find? fun address => decide (ram.size ≤ address)

/-- The fault of an access to some cells in the given order. -/
def accessFault? (addresses : List Nat) : Option Fault :=
  (ram.outside? addresses).map fun address => .memoryOutOfBounds address ram.size

/-- How many of some cells are found before the first that lies outside memory. -/
def reach (addresses : List Nat) : Nat :=
  (addresses.takeWhile fun address => decide (address < ram.size)).length

@[simp] lemma accessFault?_nil : ram.accessFault? [] = none := rfl

lemma accessFault?_cons (address : Nat) (rest : List Nat) :
    ram.accessFault? (address :: rest) =
      if address < ram.size then ram.accessFault? rest
      else some (.memoryOutOfBounds address ram.size) := by
  by_cases h : address < ram.size
  · simp [accessFault?, outside?, h, Nat.not_le.2 h]
  · simp [accessFault?, outside?, h, Nat.le_of_not_lt h]

lemma accessFault?_append (addresses rest : List Nat) :
    ram.accessFault? (addresses ++ rest) =
      (ram.accessFault? addresses).or (ram.accessFault? rest) := by
  simp only [accessFault?, outside?, List.find?_append]
  cases addresses.find? fun address => decide (ram.size ≤ address) <;> rfl

lemma accessFault?_eq_none_iff (addresses : List Nat) :
    ram.accessFault? addresses = none ↔ ∀ address ∈ addresses, address < ram.size := by
  simp [accessFault?, outside?]

/-- The fault of an access names a cell that was to be accessed and does not exist. -/
lemma accessFault?_eq_some {addresses : List Nat} {fault : Fault}
    (h : ram.accessFault? addresses = some fault) :
    ∃ address ∈ addresses, ram.size ≤ address ∧ fault = .memoryOutOfBounds address ram.size := by
  obtain ⟨address, hfound, rfl⟩ := Option.map_eq_some_iff.1 h
  exact ⟨address, List.mem_of_find?_eq_some hfound, by simpa using List.find?_some hfound, rfl⟩

/-- Which accesses fail depends on the number of cells alone. -/
lemma accessFault?_congr {ram ram' : Ram} (h : ram.size = ram'.size) (addresses : List Nat) :
    ram.accessFault? addresses = ram'.accessFault? addresses := by
  simp only [accessFault?, outside?, h]

lemma reach_cons (address : Nat) (rest : List Nat) :
    ram.reach (address :: rest) = if address < ram.size then ram.reach rest + 1 else 0 := by
  by_cases h : address < ram.size
  · simp [reach, h]
  · simp [reach, h]

lemma reach_eq_length {addresses : List Nat} (h : ram.accessFault? addresses = none) :
    ram.reach addresses = addresses.length := by
  rw [accessFault?_eq_none_iff] at h
  rw [reach, List.takeWhile_eq_self_iff.2 fun address hmem => by simpa using h address hmem]

lemma reach_le_length (addresses : List Nat) : ram.reach addresses ≤ addresses.length :=
  (List.takeWhile_sublist _).length_le

lemma reach_append_of_none {addresses : List Nat} (h : ram.accessFault? addresses = none)
    (rest : List Nat) : ram.reach (addresses ++ rest) = addresses.length + ram.reach rest := by
  rw [accessFault?_eq_none_iff] at h
  rw [reach, List.takeWhile_append_of_pos fun address hmem => by simpa using h address hmem,
    List.length_append, reach]

lemma reach_append_of_some {addresses : List Nat} {fault : Fault}
    (h : ram.accessFault? addresses = some fault) (rest : List Nat) :
    ram.reach (addresses ++ rest) = ram.reach addresses := by
  induction addresses with
  | nil => cases h
  | cons address addresses ih =>
    rw [accessFault?_cons] at h
    rw [List.cons_append, reach_cons, reach_cons]
    by_cases hlt : address < ram.size
    · rw [if_pos hlt] at h
      rw [if_pos hlt, if_pos hlt, ih h]
    · rw [if_neg hlt, if_neg hlt]

/-- The cells that an access to several cells finds exist. -/
lemma lt_of_mem_take_reach {addresses : List Nat} {address : Nat}
    (h : address ∈ addresses.take (ram.reach addresses)) : address < ram.size := by
  have hfound : addresses.take (ram.reach addresses) =
      addresses.takeWhile fun a => decide (a < ram.size) :=
    (List.prefix_iff_eq_take.1 (List.takeWhile_prefix _)).symm
  rw [hfound] at h
  simpa using List.mem_takeWhile_imp h

lemma accessFault?_of_reach_eq {addresses : List Nat}
    (h : ram.reach addresses = addresses.length) : ram.accessFault? addresses = none := by
  rw [accessFault?_eq_none_iff]
  intro address hmem
  rw [← List.take_of_length_le (Nat.le_of_eq h.symm)] at hmem
  exact ram.lt_of_mem_take_reach hmem

/-- An access that does not come to its end faults at the cell after those that it found. -/
lemma accessFault?_of_getElem?_reach {addresses : List Nat} {address : Nat}
    (h : addresses[ram.reach addresses]? = some address) :
    ram.accessFault? addresses = some (.memoryOutOfBounds address ram.size) := by
  induction addresses with
  | nil => cases h
  | cons first rest ih =>
    rw [accessFault?_cons]
    rw [reach_cons] at h
    by_cases hlt : first < ram.size
    · rw [if_pos hlt, List.getElem?_cons_succ] at h
      rw [if_pos hlt, ih h]
    · rw [if_neg hlt, List.getElem?_cons_zero, Option.some_inj] at h
      rw [if_neg hlt, h]

lemma reach_congr {ram ram' : Ram} (h : ram.size = ram'.size) (addresses : List Nat) :
    ram.reach addresses = ram'.reach addresses := by
  simp only [reach, h]

end Ram

namespace Registers

variable (rs : Registers)

/-! ## Registers -/

lemma read_write (r s : Register) (v : UInt8) :
    (rs.write r v).read s = if r = s then v else rs.read s := by
  by_cases h : r = s
  · subst h
    rw [if_pos rfl, read_write_self]
  · rw [if_neg h, read_write_of_ne rs v h]

lemma write_write (r : Register) (v w : UInt8) : (rs.write r v).write r w = rs.write r w := by
  refine ext_read fun s => ?_
  simp only [read_write]
  split <;> rfl

lemma write_read (r : Register) : rs.write r (rs.read r) = rs := by
  refine ext_read fun s => ?_
  rw [read_write]
  split
  · rename_i h
    rw [h]
  · rfl

@[simp] lemma stackPointer_setStackPointer (v : UInt8) :
    (rs.setStackPointer v).stackPointer = v := by
  simp [stackPointer, setStackPointer]

lemma stackPointer_write_of_ne {r : Register} (v : UInt8) (h : r ≠ .stackPointer) :
    (rs.write r v).stackPointer = rs.stackPointer :=
  read_write_of_ne rs v h

end Registers

end LS8
