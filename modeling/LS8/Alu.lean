import LS8.Flags

/-!
# The arithmetic and logic unit

Functions of an operation and two bytes.  Arithmetic wraps modulo 256 and the only failure is
division by zero.  The unit has an arithmetic half and a logic half, each of which hands an
operation of the other half its first operand back; `execute` sends every operation to the half
that performs it, and comparisons produce flags instead of a value.
-/

namespace LS8.Alu

/-- The operations. -/
inductive Operation where
  /-- The sum. -/
  | add
  /-- The product. -/
  | mul
  /-- The quotient rounded down. -/
  | div
  /-- The bitwise conjunction. -/
  | and
  /-- The first operand plus one. -/
  | inc
  /-- The first operand minus one. -/
  | dec
  /-- The order of the operands. -/
  | cmp
  deriving DecidableEq, Repr

/-- What an operation produced. -/
inductive Outcome where
  /-- A new value for the destination register. -/
  | value (v : UInt8)
  /-- New condition flags. -/
  | flags (f : Flags)
  deriving DecidableEq, Repr

/-- Why an operation produced nothing. -/
inductive Failure where
  /-- The divisor is zero. -/
  | divisionByZero
  deriving DecidableEq, Repr

/-- The wording of a failure. -/
def Failure.message : Failure → String
  | .divisionByZero => "division by zero"

/-- The arithmetic half. -/
def arithmetic : Operation → UInt8 → UInt8 → Except Failure UInt8
  | .add, a, b => .ok (a + b)
  | .mul, a, b => .ok (a * b)
  | .div, a, b => if b = 0 then .error .divisionByZero else .ok (a / b)
  | .inc, a, _ => .ok (a + 1)
  | .dec, a, _ => .ok (a - 1)
  | .and, a, _ | .cmp, a, _ => .ok a

/-- The logic half. -/
def logic : Operation → UInt8 → UInt8 → UInt8
  | .and, a, b => a &&& b
  | _, a, _ => a

/-- The result of an operation on two bytes. -/
def execute : Operation → UInt8 → UInt8 → Except Failure Outcome
  | .and, a, b => .ok (.value (logic .and a b))
  | .cmp, a, b => .ok (.flags (Flags.compare a b))
  | op, a, b => (arithmetic op a b).map .value

end LS8.Alu
