/-!
# The geometry of the machine

Eight byte-wide registers, at most 256 cells of memory, a stack that grows downwards and a table
of interrupt vectors in the last eight cells of the address space.  Everything else in the
library takes these numbers from here.
-/

namespace LS8

/-- The number of general-purpose registers. -/
abbrev registerCount : Nat := 8

/-- The name of a register, `R0` to `R7`. -/
abbrev Register : Type := Fin registerCount

namespace Register

/-- The register that holds the interrupt mask. -/
def mask : Register := 5

/-- The register that holds the pending interrupts, one bit for each line. -/
def status : Register := 6

/-- The register that holds the stack pointer. -/
def stackPointer : Register := 7

/-- The register that an operand byte names, if there is one. -/
def ofByte? (b : UInt8) : Option Register :=
  if h : b.toNat < registerCount then some ⟨b.toNat, h⟩ else none

end Register

/-- The number of cells that a byte can address, which is also the default size of memory. -/
def addressSpace : Nat := 256

/-- The stack pointer of a machine that was not told otherwise. -/
def defaultStackTop : UInt8 := 0xF4

/-- The address of the vector of interrupt line 0. -/
def vectorBase : Nat := 0xF8

/-- The number of interrupt lines, one for each bit of a status register. -/
def interruptLines : Nat := 8

/-- The period of the reference clock in microseconds: one thousand ticks in a second. -/
def defaultTickPeriod : UInt64 := 1000

end LS8
