import LS8.Geometry
import LS8.Text.Radix

/-!
# The register file

Eight bytes.  A register is read and written under its name; `get?` and `set?` take any number
and answer `none` where it names no register.
-/

namespace LS8

/-- The contents of the eight registers. -/
structure Registers where
  /-- The bytes of `R0` to `R7`. -/
  bytes : Vector UInt8 registerCount
  deriving DecidableEq

namespace Registers

/-- The contents of a register. -/
def read (rs : Registers) (r : Register) : UInt8 :=
  rs.bytes[r]

/-- Stores a byte in a register. -/
def write (rs : Registers) (r : Register) (v : UInt8) : Registers :=
  ⟨rs.bytes.set r v⟩

/-- The contents of the register with a number, if there is one. -/
def get? (rs : Registers) (n : Nat) : Option UInt8 :=
  rs.bytes[n]?

/-- Stores a byte in the register with a number, if there is one. -/
def set? (rs : Registers) (n : Nat) (v : UInt8) : Option Registers :=
  if h : n < registerCount then some (rs.write ⟨n, h⟩ v) else none

/-- The stack pointer. -/
def stackPointer (rs : Registers) : UInt8 :=
  rs.read .stackPointer

/-- Moves the stack pointer. -/
def setStackPointer (rs : Registers) (v : UInt8) : Registers :=
  rs.write .stackPointer v

/-- All registers zero, except for the stack pointer. -/
def initial (stackTop : UInt8) : Registers :=
  (⟨Vector.replicate registerCount 0⟩ : Registers).setStackPointer stackTop

/-- The contents in the order of the register numbers. -/
def toList (rs : Registers) : List UInt8 :=
  rs.bytes.toList

/-- The pending interrupts that the mask lets through. -/
def pending (rs : Registers) : UInt8 :=
  rs.read .mask &&& rs.read .status

/-- A row of registers, each as its name, its contents in base sixteen and a blank. -/
def rowText (rs : Registers) (row : List Register) : String :=
  String.join (row.map fun r =>
    "R" ++ Text.decimal r.val ++ "=" ++ Text.hexAddress (rs.read r).toNat ++ " ") ++ "\n"

/-- The registers in two rows of four. -/
def text (rs : Registers) : String :=
  rs.rowText ((List.finRange registerCount).take 4) ++
    rs.rowText ((List.finRange registerCount).drop 4)

@[simp] theorem read_write_self (rs : Registers) (r : Register) (v : UInt8) :
    (rs.write r v).read r = v := by
  simp [read, write]

theorem read_write_of_ne (rs : Registers) {r s : Register} (v : UInt8) (h : r ≠ s) :
    (rs.write r v).read s = rs.read s := by
  have hval : r.val ≠ s.val := fun e => h (Fin.ext e)
  simp [read, write, hval]

/-- Two register files with the same contents are the same. -/
theorem ext_read {rs ss : Registers} (h : ∀ r, rs.read r = ss.read r) : rs = ss := by
  obtain ⟨bs⟩ := rs
  obtain ⟨cs⟩ := ss
  congr 1
  apply Vector.ext
  intro i hi
  simpa [read] using h ⟨i, hi⟩

end Registers

end LS8
