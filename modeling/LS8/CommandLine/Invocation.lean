import LS8.CommandLine.Arguments
import LS8.CommandLine.LogFilter
import LS8.Config.Read
import LS8.Machine.Report
import LS8.Simulator

/-!
# An invocation

What the command does with its arguments and its environment, as a function.  The arguments are
judged before the configuration and the configuration before the program.  A run writes the
program's output to standard output and all else to standard error: the log of what happened, the
statistics if tracing is on, and, unless the program halted, why it stopped and where.
-/

namespace LS8.CommandLine

/-- What the command leaves to others: its arguments and JSON. -/
structure Libraries where
  /-- The program file that the arguments name, or the response that they get instead. -/
  arguments : List String → Except Response String
  /-- Reads JSON. -/
  json : Json.Reader

/-- The libraries that the command is built with. -/
def libraries : Libraries where
  arguments := pathOfArguments
  json := Json.reader

/-- What an invocation finds. -/
structure Environment where
  /-- The arguments. -/
  arguments : List String
  /-- The name of the configuration file, if one is set. -/
  configPath : Option String
  /-- Which events are logged. -/
  filter : LogFilter
  /-- What reading a file as text ends in. -/
  contents : String → Except ReadFailure String

/-- The log of events under a filter. -/
def logText (filter : LogFilter) (es : List Event) : String :=
  String.join ((filter.admitted es).map fun e => e.lineWithOrigin ++ "\n")

/-- The line that says what ended an invocation. -/
def fatalText (message : String) : String :=
  "[!] FATAL: " ++ message ++ "\n"

variable (lib : Libraries)

/-- The configuration to run under: the one in the file that is set, or the defaults. -/
def configuration (env : Environment) : Except ConfigError Config :=
  match env.configPath with
  | some path => Config.ofFile lib.json path (env.contents path)
  | none => .ok {}

/-- A program that is ready to run. -/
structure Job where
  /-- The settings. -/
  config : Config
  /-- The simulator with the program in its memory. -/
  simulator : Simulator
  /-- What happened before the simulator was built. -/
  earlier : List Event

/-- Why a program is not run, and what happened before that was known. -/
structure Refusal where
  /-- The cause. -/
  cause : BuildError
  /-- The events up to then. -/
  events : List Event

/-- Reads the configuration and the program and builds the simulator. -/
def prepare (env : Environment) (path : String) : Except Refusal Job :=
  match configuration lib env with
  | .error e => .error ⟨.config e, []⟩
  | .ok config =>
    match Program.ofFile path (env.contents path) with
    | .error e => .error ⟨.load e, [.loading path]⟩
    | .ok program =>
      let events := [.loading path, program.event]
      match Simulator.load program.bytes config .unlimited with
      | .error e => .error ⟨e, events⟩
      | .ok simulator => .ok ⟨config, simulator, events⟩

/-- The exit code of a run. -/
def exitCode : Except Fault Exit → UInt32
  | .ok .halted => 0
  | .ok .tickLimit => 1
  | .error _ => 1

/-- What is said about a run that did not end with a halt. -/
def verdict (m : Machine) : Except Fault Exit → String
  | .ok .halted => ""
  | .ok .tickLimit => "[!] tick limit reached before HLT\n" ++ m.stateReport ++ "\n"
  | .error fault => fatalText fault.message ++ m.stateReport ++ "\n"

/-- What is written to standard error after a run that took `seconds`. -/
def closing (config : Config) (m : Machine) (seconds : String) (result : Except Fault Exit) :
    String :=
  (if config.tracing then m.statistics.report seconds else "") ++ verdict m result

/-- The response when the program is not run. -/
def refuse (env : Environment) (r : Refusal) : Response where
  code := 1
  stderr := logText env.filter r.events ++ fatalText r.cause.message

/-- Runs a program with a budget of ticks.  There is no response if the budget ends first. -/
def runJob (budget : Nat) (env : Environment) (seconds : String) (job : Job) : Option Response :=
  match job.simulator.run budget with
  | (none, _) => none
  | (some result, s) =>
    some {
      code := exitCode result
      stdout := s.machine.output.text
      stderr := logText env.filter (job.earlier ++ s.machine.journal.toList)
        ++ closing job.config s.machine seconds result }

/-- The response of the command, whose run may take a budget of ticks and takes `seconds`. -/
def invoke (budget : Nat) (env : Environment) (seconds : String) : Option Response :=
  match lib.arguments env.arguments with
  | .error r => some r
  | .ok path =>
    match prepare lib env path with
    | .error r => some (refuse env r)
    | .ok job => runJob budget env seconds job

end LS8.CommandLine
