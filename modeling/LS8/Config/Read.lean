import LS8.Config.Basic
import LS8.Json.Reader

/-!
# Reading a configuration

A configuration is written in JSON as a record of three sections, each of which is a record of
settings.  There are defaults at both levels: a section that is left out is the default of its
type, and a setting that is left out of a section has a default of its own.
-/

namespace LS8

variable (r : Json.Reader)

/-! ## Sections -/

namespace GeneralConfig

/-- The section when it is there without a setting. -/
def leftOut : GeneralConfig where
  tracing := default
  maxTicks := default

/-- The settings of the section. -/
def fields : List (Json.Field GeneralConfig) :=
  [⟨"trace_instructions", r.bool, fun tracing c => { c with tracing }⟩,
    ⟨"max_ticks", r.optional r.word, fun maxTicks c => { c with maxTicks }⟩]

/-- The section that a value is. -/
def read : Json → Except String GeneralConfig :=
  r.record (fields r) leftOut

end GeneralConfig

namespace MemoryConfig

/-- The number of memory cells when the section does not say. -/
def defaultRamSize : Nat := addressSpace

/-- The initial stack pointer when the section does not say. -/
def defaultStackPointer : UInt8 := defaultStackTop

/-- The section when it is there without a setting. -/
def leftOut : MemoryConfig where
  ramSize := defaultRamSize
  stackTop := defaultStackPointer

/-- The settings of the section. -/
def fields : List (Json.Field MemoryConfig) :=
  [⟨"ram_size", r.word, fun cells c => { c with ramSize := cells.toNat }⟩,
    ⟨"stack_top", r.byte, fun stackTop c => { c with stackTop }⟩]

/-- The section that a value is. -/
def read : Json → Except String MemoryConfig :=
  r.record (fields r) leftOut

end MemoryConfig

namespace ClockConfig

/-- The time from tick to tick when the section does not say. -/
def defaultPeriod : UInt64 := defaultTickPeriod

/-- A clock waits when the section does not say. -/
def defaultPaced : Bool := true

/-- The section when it is there without a setting. -/
def leftOut : ClockConfig where
  tickPeriod := defaultPeriod
  paced := defaultPaced

/-- The settings of the section. -/
def fields : List (Json.Field ClockConfig) :=
  [⟨"tick_period_us", r.word, fun tickPeriod c => { c with tickPeriod }⟩,
    ⟨"paced", r.bool, fun paced c => { c with paced }⟩]

/-- The section that a value is. -/
def read : Json → Except String ClockConfig :=
  r.record (fields r) leftOut

end ClockConfig

/-! ## The whole -/

namespace Config

/-- The configuration when no section is there: each is the default of its type. -/
def leftOut : Config where
  toGeneralConfig := {}
  toMemoryConfig := {}
  toClockConfig := {}

/-- The sections. -/
def fields : List (Json.Field Config) :=
  [⟨"general", GeneralConfig.read r, fun general c => { c with toGeneralConfig := general }⟩,
    ⟨"memory", MemoryConfig.read r, fun memory c => { c with toMemoryConfig := memory }⟩,
    ⟨"clock", ClockConfig.read r, fun clock c => { c with toClockConfig := clock }⟩]

/-- The settings that a JSON text describes, if it is written as a configuration. -/
def parse (text : String) : Except String Config := do
  r.record (fields r) leftOut (← r.parse text)

/-- The valid settings that a JSON text describes. -/
def ofText (text : String) : Except ConfigError Config :=
  match parse r text with
  | .error reason => .error (.malformed reason)
  | .ok c => c.validate.map fun _ => c

/-- The valid settings in a file, given what reading the file at `path` ended in. -/
def ofFile (path : String) (contents : Except ReadFailure String) : Except ConfigError Config :=
  match contents with
  | .error failure => .error (.unreadable path failure)
  | .ok text => ofText r text

end Config

end LS8
