import LS8.Fault
import LS8.Geometry

/-!
# Memory

A fixed number of byte cells.  Every access is checked against the number of cells: memory
neither grows nor wraps.  There are two ways to fill it.  `copyIn` checks the whole range first and
copies all or nothing; `load` writes byte after byte from address 0 and keeps what it wrote before
it ran out of cells.
-/

namespace LS8

open Text

/-- The cells of a memory. -/
structure Ram where
  /-- The contents by address. -/
  cells : Array UInt8
  deriving DecidableEq

namespace Ram

/-- A memory of `n` cells, all zero. -/
def zeroed (n : Nat) : Ram :=
  ⟨Array.replicate n 0⟩

/-- The number of cells. -/
def size (ram : Ram) : Nat :=
  ram.cells.size

/-- The contents in the order of the addresses. -/
def toList (ram : Ram) : List UInt8 :=
  ram.cells.toList

/-- The byte at an address. -/
def read (ram : Ram) (address : Nat) : Except Fault UInt8 :=
  match ram.cells[address]? with
  | some v => .ok v
  | none => .error (.memoryOutOfBounds address ram.size)

/-- Stores a byte in the cell at an address. -/
def set (ram : Ram) (address : Nat) (v : UInt8) (h : address < ram.size) : Ram :=
  ⟨ram.cells.set address v h⟩

/-- Stores a byte at an address. -/
def write (ram : Ram) (address : Nat) (v : UInt8) : Except Fault Ram :=
  if h : address < ram.size then .ok (ram.set address v h)
  else .error (.memoryOutOfBounds address ram.size)

/-- The end of a range of cells.  A machine word cannot count any further than this. -/
def rangeEnd (offset length : Nat) : Nat :=
  min (offset + length) 0xFFFFFFFFFFFFFFFF

/-- Copies bytes to the cells from `offset` on, all of them or none.  A refusal names the first
address of the range that lies outside the memory, or `offset` when that lies outside itself. -/
def copyIn (ram : Ram) (offset : Nat) (data : List UInt8) : Ram × Except Fault Unit :=
  let stop := rangeEnd offset data.length
  if ram.size < stop then (ram, .error (.memoryOutOfBounds (max ram.size offset) ram.size))
  else (⟨ram.cells.extract 0 offset ++ data.toArray ++ ram.cells.extract stop ram.size⟩, .ok ())

/-- The memory with bytes copied in from `offset` on, if that is not refused. -/
def writeSlice (ram : Ram) (offset : Nat) (data : List UInt8) : Except Fault Ram :=
  match ram.copyIn offset data with
  | (filled, .ok ()) => .ok filled
  | (_, .error fault) => .error fault

/-- Stores bytes one after the other from an address on, up to the first that does not fit. -/
def loadFrom (ram : Ram) : Nat → List UInt8 → Ram × Except Fault Unit
  | _, [] => (ram, .ok ())
  | address, v :: rest =>
    if h : address < ram.size then loadFrom (ram.set address v h) (address + 1) rest
    else (ram, .error (.memoryOutOfBounds address ram.size))

/-- Stores a program from address 0 on. -/
def load (ram : Ram) (program : List UInt8) : Ram × Except Fault Unit :=
  ram.loadFrom 0 program

/-- The bytes from an address on, three at most.  There are none at the end of memory, and no
answer beyond it. -/
def window (ram : Ram) (address : Nat) : Option (List UInt8) :=
  if address ≤ ram.size then some ((ram.toList.drop address).take 3) else none

/-- The rows of a dump, the first of which stands at `address`. -/
def dumpFrom (address : Nat) : List UInt8 → String
  | [] => ""
  | v :: rest =>
    let row := v :: rest.take 15
    hexAddress address ++ ":" ++ String.join (row.map fun b => " " ++ hexByte b) ++ "\n"
      ++ dumpFrom (address + 16) (rest.drop 15)
termination_by cells => cells.length
decreasing_by simp only [List.length_drop, List.length_cons]; omega

/-- All cells in base sixteen, sixteen to a row. -/
def dump (ram : Ram) : String :=
  dumpFrom 0 ram.toList

/-- A memory in one line, without its contents. -/
def summary (ram : Ram) : String :=
  "Ram \x7b capacity: " ++ decimal ram.size ++ ", .. \x7d"

@[simp] theorem size_zeroed (n : Nat) : (zeroed n).size = n := by
  simp [size, zeroed]

@[simp] theorem size_set (ram : Ram) (address : Nat) (v : UInt8) (h : address < ram.size) :
    (ram.set address v h).size = ram.size :=
  Array.size_set h

end Ram

end LS8
