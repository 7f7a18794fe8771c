/-!
# Condition flags

Three bits that a comparison writes and the conditional jumps read.  As a byte the flags are
`00000LGE`; a byte is read back by its three low bits alone.
-/

namespace LS8

/-- What the last comparison found. -/
structure Flags where
  /-- The operands were equal. -/
  equal : Bool
  /-- The first operand was the greater one. -/
  greater : Bool
  /-- The first operand was the lesser one. -/
  less : Bool
  deriving DecidableEq, Repr

namespace Flags

/-- No flag set. -/
def none : Flags := ⟨false, false, false⟩

/-- The flags of comparing two bytes as unsigned numbers: exactly one is set. -/
def compare (a b : UInt8) : Flags :=
  ⟨a == b, decide (a > b), decide (a < b)⟩

/-- The flags in the three low bits of a byte; the others are dropped. -/
def ofBits (bits : UInt8) : Flags :=
  ⟨bits &&& 1 != 0, bits &&& 2 != 0, bits &&& 4 != 0⟩

/-- The flags as a byte. -/
def bits (f : Flags) : UInt8 :=
  (cond f.equal 1 0) ||| (cond f.greater 2 0) ||| (cond f.less 4 0)

/-- The letters of the flags that are set, a dash for each other. -/
def text (f : Flags) : String :=
  String.ofList [cond f.less 'L' '-', cond f.greater 'G' '-', cond f.equal 'E' '-']

/-- Flags survive the way to a byte and back. -/
@[simp] theorem ofBits_bits (f : Flags) : ofBits f.bits = f := by
  obtain ⟨e, g, l⟩ := f
  cases e <;> cases g <;> cases l <;> decide

end Flags

end LS8
