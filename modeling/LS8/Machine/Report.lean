import LS8.Machine.Basic

/-!
# The state of a machine as text

The state report shows what a reader needs after a run: the phase, the program counter, the
flags, the interrupt enable, the instruction at the program counter and the registers.  The
summary is a single line of the same data in plain numbers.
-/

namespace LS8

open Text

/-- A truth value in words. -/
def boolText (b : Bool) : String :=
  cond b "true" "false"

/-- The name of a phase with a capital letter. -/
def Phase.title : Phase → String
  | .idle => "Idle"
  | .running => "Running"
  | .halted => "Halted"

namespace Machine

/-- The instruction at the program counter, from as many of its bytes as memory has. -/
def instructionText (m : Machine) : String :=
  match m.ram.window m.pc with
  | some bytes => disassemble bytes
  | none => "<out of range>"

/-- The state report. -/
def stateReport (m : Machine) : String :=
  "state=" ++ m.phase.text ++ " pc=" ++ hexAddress m.pc ++ " fl=" ++ m.flags.text
    ++ " ie=" ++ boolText m.interruptsEnabled ++ " inst=[" ++ m.instructionText ++ "]\n"
    ++ m.registers.text

/-- The state in one line. -/
def summary (m : Machine) : String :=
  "Cpu \x7b regs: RegisterFile \x7b regs: ["
    ++ String.intercalate ", " (m.registers.toList.map fun v => decimal v.toNat)
    ++ "] \x7d, pc: " ++ decimal m.pc ++ ", fl: Flags(" ++ decimal m.flags.bits.toNat
    ++ "), state: " ++ m.phase.title
    ++ ", interrupts_enabled: " ++ boolText m.interruptsEnabled ++ ", .. \x7d"

end Machine

end LS8
