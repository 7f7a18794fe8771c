import LS8.Proofs.Stack

/-!
# Last in, first out

Pushes and pops in any order, as long as nobody pops more than was pushed.  A push may find no cell
for its byte and fail; the bytes of the others, the latest first, are what is still on the stack.
`Machine.StackUsed` are the machines that such a row of pushes and pops leads to, each with that
list and with the greatest length that the list has had on the way.

`stack_is_lifo` says that the machine and the list never disagree, up to a stack of 256 bytes, where
the stack pointer is back at its start.  What carries it from one push or pop to the next is
`HoldsStack`: the bytes stand in the cells from the stack pointer upwards, in the order of the list,
and a push goes to a cell that is none of them.
-/

namespace LS8

/-! ## Cells above and below a stack pointer -/

/-- The cell below a stack pointer is none of the 255 cells from it upwards. -/
lemma notMem_cellsFrom {sp : UInt8} {k : Nat} (hk : k ≤ 255) :
    (sp - 1).toNat ∉ cellsFrom sp k := by
  simp only [cellsFrom, List.mem_map, List.mem_range, not_exists, not_and]
  intro i hi heq
  have hsp := sp.toNat_lt
  simp only [UInt8.toNat_add, UInt8.toNat_sub, UInt8.toNat_ofNat', UInt8.toNat_one] at heq
  omega

lemma sub_ofNat_succ_eq (sp : UInt8) (i : Nat) :
    sp - UInt8.ofNat (i + 1) = sp - UInt8.ofNat i - 1 := by
  apply UInt8.toNat.inj
  simp only [UInt8.toNat_sub, UInt8.toNat_ofNat', UInt8.toNat_one]
  omega

lemma cellsBelow_subset {sp : UInt8} {j k : Nat} (h : j ≤ k) :
    cellsBelow sp j ⊆ cellsBelow sp k :=
  List.map_subset _ (List.range_subset.2 h)

lemma mem_cellsBelow_succ (sp : UInt8) (k : Nat) :
    (sp - UInt8.ofNat (k + 1)).toNat ∈ cellsBelow sp (k + 1) :=
  List.mem_map.2 ⟨k, List.mem_range.2 (Nat.lt_succ_self k), rfl⟩

namespace Machine

/-! ## Uses of the stack -/

/-- A row of pushes and pops leads from `start` to a machine.  The list has the bytes that were
pushed successfully and not popped again, the latest first, and the number is the greatest length
of the list so far.  There are never more than 256 such bytes, and a pop needs one. -/
inductive StackUsed (start : Machine) : Machine → List UInt8 → Nat → Prop where
  /-- Nothing has been pushed yet. -/
  | start : StackUsed start start [] 0
  /-- A push that succeeds. -/
  | push {m : Machine} {held : List UInt8} {deepest : Nat} (v : UInt8)
      (h : StackUsed start m held deepest) (hroom : held.length < 256)
      (hok : (m.perform (push v)).1 = .ok ()) :
      StackUsed start (m.perform (push v)).2 (v :: held) (max deepest (held.length + 1))
  /-- A push that fails. -/
  | refusal {m : Machine} {held : List UInt8} {deepest : Nat} {fault : Fault} (v : UInt8)
      (h : StackUsed start m held deepest) (hfault : (m.perform (push v)).1 = .error fault) :
      StackUsed start (m.perform (push v)).2 held deepest
  /-- A pop while there is a byte to pop, whatever the machine answers. -/
  | pop {m : Machine} {v : UInt8} {held : List UInt8} {deepest : Nat}
      (h : StackUsed start m (v :: held) deepest) :
      StackUsed start (m.perform pop).2 held deepest

/-! ## The bytes in memory -/

/-- The bytes of a list stand on the stack of a machine, which was used as deep as `deepest`. -/
structure HoldsStack (start m : Machine) (held : List UInt8) (deepest : Nat) : Prop where
  /-- No two of the bytes share a cell. -/
  fits : held.length ≤ 256
  depth : held.length ≤ deepest
  stackPointer :
    m.registers.stackPointer = start.registers.stackPointer - UInt8.ofNat held.length
  cells : (cellsFrom m.registers.stackPointer held.length).map m.ram.cell? = held.map some
  size : m.ram.size = start.ram.size
  otherCells : ∀ address ∉ cellsBelow start.registers.stackPointer deepest,
    m.ram.cell? address = start.ram.cell? address

lemma perform_push_of_lt (v : UInt8) {m : Machine}
    (h : (m.registers.stackPointer - 1).toNat < m.ram.size) :
    m.perform (push v) = (.ok (), m.pushed v) := by
  rw [perform, push_apply, if_pos h]

lemma perform_push_of_le (v : UInt8) {m : Machine}
    (h : m.ram.size ≤ (m.registers.stackPointer - 1).toNat) :
    m.perform (push v) =
      (.error (.memoryOutOfBounds (m.registers.stackPointer - 1).toNat m.ram.size), m) := by
  rw [perform, push_apply, if_neg (Nat.not_lt.2 h)]

/-- A push succeeds exactly if the cell below the stack pointer exists. -/
lemma perform_push_eq_ok_iff (v : UInt8) (m : Machine) :
    (m.perform (push v)).1 = .ok () ↔ (m.registers.stackPointer - 1).toNat < m.ram.size := by
  by_cases h : (m.registers.stackPointer - 1).toNat < m.ram.size
  · rw [perform_push_of_lt v h]
    exact iff_of_true rfl h
  · rw [perform_push_of_le v (Nat.le_of_not_lt h)]
    exact iff_of_false nofun h

/-- A push that fails changes nothing. -/
lemma perform_push_of_error {v : UInt8} {m : Machine} {fault : Fault}
    (h : (m.perform (push v)).1 = .error fault) : (m.perform (push v)).2 = m := by
  have hmissing : ¬ (m.registers.stackPointer - 1).toNat < m.ram.size := by
    rw [← perform_push_eq_ok_iff v, h]
    exact nofun
  rw [perform_push_of_le v (Nat.le_of_not_lt hmissing)]

namespace HoldsStack

variable {start m : Machine} {v : UInt8} {held : List UInt8} {deepest : Nat}

lemma empty (start : Machine) : HoldsStack start start [] 0 where
  fits := Nat.zero_le _
  depth := Nat.le_refl _
  stackPointer := (UInt8.sub_zero _).symm
  cells := rfl
  size := rfl
  otherCells _ _ := rfl

lemma pushed (h : HoldsStack start m held deepest) (hroom : held.length < 256)
    (hcell : (m.registers.stackPointer - 1).toNat < m.ram.size) (v : UInt8) :
    HoldsStack start (m.pushed v) (v :: held) (max deepest (held.length + 1)) where
  fits := hroom
  depth := Nat.le_max_right ..
  stackPointer := by
    rw [stackPointer_pushed, h.stackPointer, List.length_cons, sub_ofNat_succ_eq]
  cells := by
    have hback : m.registers.stackPointer - 1 + 1 = m.registers.stackPointer :=
      UInt8.sub_add_cancel _ _
    have hkept : (cellsFrom m.registers.stackPointer held.length).map (m.pushed v).ram.cell? =
        (cellsFrom m.registers.stackPointer held.length).map m.ram.cell? := by
      refine List.map_congr_left fun address hmem => m.ram.cell?_store_of_ne v ?_
      rintro rfl
      exact notMem_cellsFrom (Nat.le_of_lt_succ hroom) hmem
    rw [stackPointer_pushed, List.length_cons, cellsFrom_succ, hback, List.map_cons,
      List.map_cons, hkept, h.cells]
    exact congrArg (· :: held.map some) (m.ram.cell?_store_self v hcell)
  size := by rw [size_ram_pushed, h.size]
  otherCells address houtside := by
    have hdeeper : address ∉ cellsBelow start.registers.stackPointer (held.length + 1) :=
      fun hmem => houtside (cellsBelow_subset (Nat.le_max_right ..) hmem)
    have hne : (m.registers.stackPointer - 1).toNat ≠ address := by
      rintro rfl
      have hmem := mem_cellsBelow_succ start.registers.stackPointer held.length
      rw [sub_ofNat_succ_eq, ← h.stackPointer] at hmem
      exact hdeeper hmem
    rw [← h.otherCells address fun hmem => houtside (cellsBelow_subset (Nat.le_max_left ..) hmem)]
    exact m.ram.cell?_store_of_ne v hne

/-- The first byte of the list is the one that the stack pointer names. -/
lemma cell?_top (h : HoldsStack start m (v :: held) deepest) :
    m.ram.cell? m.registers.stackPointer.toNat = some v := by
  have hcells := h.cells
  rw [List.length_cons, cellsFrom_succ, List.map_cons, List.map_cons] at hcells
  exact (List.cons.inj hcells).1

lemma perform_pop (h : HoldsStack start m (v :: held) deepest) :
    m.perform pop = (.ok v, m.popped) := by
  have hcell : m.registers.stackPointer.toNat < m.ram.size := m.ram.lt_size_of_cell? h.cell?_top
  have htop : m.top = v := by rw [top, Ram.byte, h.cell?_top, Option.getD_some]
  rw [perform, pop_apply, if_pos hcell, htop]

lemma popped (h : HoldsStack start m (v :: held) deepest) :
    HoldsStack start m.popped held deepest where
  fits := Nat.le_of_succ_le h.fits
  depth := Nat.le_of_succ_le h.depth
  stackPointer := by
    rw [stackPointer_popped, h.stackPointer, List.length_cons, sub_ofNat_succ_eq,
      UInt8.sub_add_cancel]
  cells := by
    have hcells := h.cells
    rw [List.length_cons, cellsFrom_succ, List.map_cons, List.map_cons] at hcells
    rw [stackPointer_popped, ram_popped]
    exact (List.cons.inj hcells).2
  size := h.size
  otherCells := h.otherCells

end HoldsStack

/-! ## Any row of pushes and pops -/

variable {start m : Machine} {held : List UInt8} {deepest : Nat}

lemma StackUsed.holdsStack (h : StackUsed start m held deepest) :
    HoldsStack start m held deepest := by
  induction h with
  | start => exact .empty start
  | push v _ hroom hok ih =>
    have hcell := (perform_push_eq_ok_iff v _).1 hok
    rw [perform_push_of_lt v hcell]
    exact ih.pushed hroom hcell v
  | refusal v _ hfault ih =>
    rw [perform_push_of_error hfault]
    exact ih
  | pop _ ih =>
    rw [ih.perform_pop]
    exact ih.popped

/-- **The stack is last in, first out.**  After any row of pushes and pops that never pops from an
empty stack and never holds more than 256 bytes, the stack pointer is as many cells below its start
as there are bytes on the stack, wherever it wraps.  A pop answers with the latest of them.  A push
succeeds exactly if the cell below the stack pointer exists, and changes nothing if it fails.  No
cell has changed but the ones down to the deepest that was used. -/
theorem stack_is_lifo (used : StackUsed start m held deepest) :
    m.registers.stackPointer = start.registers.stackPointer - UInt8.ofNat held.length
      ∧ (∀ v, held.head? = some v → (m.perform pop).1 = .ok v)
      ∧ (∀ v, (m.perform (push v)).1 = .ok () ↔
          (m.registers.stackPointer - 1).toNat < start.ram.size)
      ∧ (∀ v fault, (m.perform (push v)).1 = .error fault → (m.perform (push v)).2 = m)
      ∧ ∀ address ∉ cellsBelow start.registers.stackPointer deepest,
          m.ram.cell? address = start.ram.cell? address := by
  have holds := used.holdsStack
  refine ⟨holds.stackPointer, ?_, ?_, ?_, holds.otherCells⟩
  · intro v hfirst
    obtain ⟨rest, rfl⟩ := List.head?_eq_some_iff.1 hfirst
    rw [holds.perform_pop]
  · intro v
    rw [← holds.size]
    exact perform_push_eq_ok_iff v m
  · intro v fault
    exact perform_push_of_error

/-- A machine with two cells of memory and its stack pointer right behind them. -/
def twoCells : Machine :=
  initial (Ram.zeroed 2) 2 false .unlimited

/-- Two bytes fit, the stack pointer wraps and a third push finds no cell; the pop after it answers
with the second byte, and the one after that with the first. -/
theorem stack_is_lifo_twoCells :
    ∃ full popped, StackUsed twoCells full [7, 5] 2
      ∧ StackUsed twoCells popped [5] 2
      ∧ full.registers.stackPointer = 0
      ∧ (full.perform (push 9)).2 = full
      ∧ (full.perform pop).1 = .ok 7
      ∧ (popped.perform pop).1 = .ok 5 := by
  let one := (twoCells.perform (push 5)).2
  let two := (one.perform (push 7)).2
  have hone : StackUsed twoCells one [5] 1 := .push 5 .start (by decide) (by decide +kernel)
  have htwo : StackUsed twoCells two [7, 5] 2 := .push 7 hone (by decide) (by decide +kernel)
  have hrefused : (two.perform (push 9)).1 = .error (.memoryOutOfBounds 255 2) := by
    decide +kernel
  have hfull : StackUsed twoCells (two.perform (push 9)).2 [7, 5] 2 := .refusal 9 htwo hrefused
  obtain ⟨hsp, hpop, -, hrefusal, -⟩ := stack_is_lifo htwo
  rw [hrefusal 9 _ hrefused] at hfull
  obtain ⟨-, hnext, -⟩ := stack_is_lifo hfull.pop
  exact ⟨two, _, hfull, hfull.pop, hsp, hrefusal 9 _ hrefused, hpop 7 rfl, hnext 5 rfl⟩

end Machine

end LS8
