import LS8.Opcode
import LS8.Text.TwoPlaces

/-!
# Statistics of a run

Counters of what a machine did, each a sixty-four bit word that wraps, and the report that shows
them.  The report gives each class of instructions as a share of all retired instructions.
-/

namespace LS8

open Text

/-- The counters. -/
structure Statistics where
  /-- Clock ticks. -/
  ticks : UInt64 := 0
  /-- Instructions that ran to completion. -/
  retired : UInt64 := 0
  /-- Retired instructions of the arithmetic and logic unit. -/
  alu : UInt64 := 0
  /-- Retired loads. -/
  load : UInt64 := 0
  /-- Retired jumps and calls, taken or not. -/
  branch : UInt64 := 0
  /-- Retired print instructions. -/
  output : UInt64 := 0
  /-- Retired raises and returns. -/
  interrupt : UInt64 := 0
  /-- Retired halts. -/
  system : UInt64 := 0
  /-- Instructions that redirected the program counter. -/
  branchesTaken : UInt64 := 0
  /-- Interrupts that were dispatched to their handlers. -/
  interruptsServiced : UInt64 := 0
  deriving DecidableEq, Repr

namespace Statistics

/-- Counts an instruction under its class. -/
def count (s : Statistics) : InstructionClass → Statistics
  | .alu => { s with alu := s.alu + 1 }
  | .load => { s with load := s.load + 1 }
  | .branch => { s with branch := s.branch + 1 }
  | .output => { s with output := s.output + 1 }
  | .interrupt => { s with interrupt := s.interrupt + 1 }
  | .system => { s with system := s.system + 1 }

/-- Counts an instruction that ran to completion. -/
def retire (s : Statistics) (c : InstructionClass) : Statistics :=
  { s.count c with retired := s.retired + 1 }

/-- How many instructions of a class retired. -/
def ofClass (s : Statistics) : InstructionClass → UInt64
  | .alu => s.alu
  | .load => s.load
  | .branch => s.branch
  | .output => s.output
  | .interrupt => s.interrupt
  | .system => s.system

/-- The share of `n` among the retired instructions in percent, computed in doubles. -/
def percentage (s : Statistics) (n : UInt64) : Float :=
  n.toFloat / (if s.retired = 0 then 1 else s.retired).toFloat * 100

/-- The line of the report for one class of instructions. -/
def classLine (s : Statistics) (name : String) (n : UInt64) : String :=
  "  op." ++ String.ofList (name.toList.rightpad 20 ' ') ++ " " ++ decimal n.toNat
    ++ " (" ++ twoPlaces (s.percentage n) ++ "%)\n"

/-- A line drawn with one character. -/
def ruler (c : Char) : String :=
  String.ofList (List.replicate 58 c) ++ "\n"

/-- The report of a run that took `seconds` on the host. -/
def report (s : Statistics) (seconds : String) : String :=
  ruler '=' ++ "LS-8 RUN STATISTICS\n" ++ ruler '='
    ++ "host_seconds             " ++ seconds ++ " s\n"
    ++ "sim_ticks                " ++ decimal s.ticks.toNat ++ "\n"
    ++ "sim_insts                " ++ decimal s.retired.toNat ++ "\n"
    ++ ruler '-' ++ "INSTRUCTION MIX\n"
    ++ s.classLine "alu" s.alu ++ s.classLine "load" s.load ++ s.classLine "branch" s.branch
    ++ s.classLine "io" s.output ++ s.classLine "interrupt" s.interrupt
    ++ s.classLine "system" s.system
    ++ ruler '-'
    ++ "branch.taken             " ++ decimal s.branchesTaken.toNat ++ "\n"
    ++ "interrupts.serviced      " ++ decimal s.interruptsServiced.toNat ++ "\n"
    ++ ruler '='

end Statistics

end LS8
