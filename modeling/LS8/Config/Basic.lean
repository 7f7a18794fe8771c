import LS8.File
import LS8.Geometry
import LS8.Text.Radix

/-!
# Configuration

The six settings of a run with their defaults, and which of their combinations describe a machine
that a byte can address.
-/

namespace LS8

open Text

/-- The settings of the run as a whole. -/
structure GeneralConfig where
  /-- Record every instruction and report the statistics at the end. -/
  tracing : Bool := false
  /-- Stop after so many ticks. -/
  maxTicks : Option UInt64 := none
  deriving DecidableEq, Repr

/-- The geometry of memory. -/
structure MemoryConfig where
  /-- The number of memory cells. -/
  ramSize : Nat := addressSpace
  /-- The initial stack pointer. -/
  stackTop : UInt8 := defaultStackTop
  deriving DecidableEq, Repr

/-- The pace of the clock. -/
structure ClockConfig where
  /-- The time from tick to tick in microseconds. -/
  tickPeriod : UInt64 := defaultTickPeriod
  /-- Wait between ticks. -/
  paced : Bool := true
  deriving DecidableEq, Repr

/-- The settings of a run, in three sections. -/
structure Config extends GeneralConfig, MemoryConfig, ClockConfig
  deriving DecidableEq, Repr

/-- Why a configuration was refused. -/
inductive ConfigError where
  /-- The configuration file could not be read. -/
  | unreadable (path : String) (failure : ReadFailure)
  /-- The text is not a configuration in JSON, for the reason that the reader gives. -/
  | malformed (reason : String)
  /-- The number of memory cells is zero or more than a byte can address. -/
  | ramSize (cells : Nat)
  /-- The stack pointer starts outside memory. -/
  | stackTop (top : UInt8) (cells : Nat)
  /-- A paced clock has no period. -/
  | tickPeriod
  deriving DecidableEq, Repr

/-- The wording of a configuration error. -/
def ConfigError.message : ConfigError → String
  | .unreadable path failure => "could not read config '" ++ path ++ "': " ++ failure.message
  | .malformed reason => "invalid config JSON: " ++ reason
  | .ramSize cells =>
    "invalid config: memory.ram_size must be in 1..=" ++ decimal addressSpace ++ ", got "
      ++ decimal cells
  | .stackTop top cells =>
    "invalid config: memory.stack_top " ++ hexAddress top.toNat ++ " lies outside "
      ++ decimal cells ++ " bytes of RAM"
  | .tickPeriod => "invalid config: clock.tick_period_us must be non-zero when clock.paced is set"

namespace Config

/-- Checks the settings against each other, the geometry of memory first. -/
def validate (c : Config) : Except ConfigError Unit :=
  if c.ramSize = 0 ∨ addressSpace < c.ramSize then .error (.ramSize c.ramSize)
  else if c.ramSize ≤ c.stackTop.toNat then .error (.stackTop c.stackTop c.ramSize)
  else if c.paced ∧ c.tickPeriod = 0 then .error .tickPeriod
  else .ok ()

/-- The settings describe a machine that can be built. -/
def Valid (c : Config) : Prop :=
  1 ≤ c.ramSize ∧ c.ramSize ≤ addressSpace ∧ c.stackTop.toNat < c.ramSize
    ∧ (c.paced = true → c.tickPeriod ≠ 0)

/-- Exactly the valid settings pass the check. -/
theorem validate_eq_ok_iff (c : Config) : c.validate = .ok () ↔ c.Valid := by
  simp only [validate, Valid]
  split
  · simp only [reduceCtorEq, false_iff]; omega
  · split
    · simp only [reduceCtorEq, false_iff]; omega
    · split
      · rename_i h
        simp only [reduceCtorEq, false_iff]
        exact fun hv => hv.2.2.2 h.1 h.2
      · rename_i h
        simp only [true_iff]
        exact ⟨by omega, by omega, by omega, fun hp h0 => h ⟨hp, h0⟩⟩

end Config

end LS8
