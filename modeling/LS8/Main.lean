import LS8.CommandLine.Invocation
import LS8.CommandLine.LogSetting

/-!
# The command

Reads the environment, hands it to `LS8.CommandLine` and carries a run out tick by tick: what the
program prints and what is logged appears as it happens, and a paced clock is waited for.
-/

namespace LS8.CommandLine

/-- The number of an error of the operating system, which may come with a sign. -/
def errorNumber (code : UInt32) : Nat :=
  code.toInt32.toInt.natAbs

/-- What reading a file as text ends in. -/
def readText (path : String) : IO (Except ReadFailure String) := do
  try
    return decodeText (← IO.FS.readBinFile path)
  catch
    | .noFileOrDirectory .. => return .error .notFound
    | .inappropriateType _ code _ =>
      if errorNumber code = 21 then return .error .isDirectory
      return .error (.other "Not a directory (os error 20)")
    | .permissionDenied .. => return .error (.other "Permission denied (os error 13)")
    | e => return .error (.other e.toString)

/-- Prints what a machine has printed and logged since the last time. -/
def drain (filter : LogFilter) (s : Simulator) : IO Simulator := do
  let m := s.machine
  IO.print m.output.text
  IO.eprint (logText filter m.journal.toList)
  return s.withMachine { m with output := { m.output with text := "" }, journal := #[] }

/-- Waits for the clock. -/
def waitForTick (s : Simulator) : IO Simulator := do
  let (delay, clock) := s.clock.wait ((← IO.monoNanosNow) / 1000)
  if 1000 ≤ delay then
    IO.sleep (UInt32.ofNat (min (delay / 1000) (UInt32.size - 1)))
  return { s with clock := clock }

/-- Ticks until the run has ended. -/
partial def tickOn (filter : LogFilter) (s : Simulator) :
    IO (Except Fault Exit × Simulator) := do
  let s ← drain filter s
  match s.exit? with
  | some exit => return (.ok exit, ← drain filter (s.close exit))
  | none =>
    let s ← waitForTick s
    match s.tick with
    | (.ok (), s) => tickOn filter s
    | (.error fault, s) => return (.error fault, ← drain filter s)

/-- A time in nanoseconds as seconds with four places. -/
def secondsText (nanoseconds : Nat) : String :=
  let units := nanoseconds / 100000
  Text.decimal (units / 10000) ++ "." ++ String.ofList (Text.paddedDigits 10 4 (units % 10000))

/-- Runs a program and returns the exit code. -/
def runProgram (filter : LogFilter) (job : Job) : IO UInt32 := do
  IO.eprint (logText filter job.earlier)
  let begun ← IO.monoNanosNow
  let (result, s) ← tickOn filter (job.simulator.perform Machine.start).2
  let seconds := secondsText ((← IO.monoNanosNow) - begun)
  IO.eprint (closing job.config s.machine seconds result)
  return exitCode result

/-- Prints a response and returns its exit code. -/
def respond (r : Response) : IO UInt32 := do
  IO.print r.stdout
  IO.eprint r.stderr
  return r.code

/-- Carries out a command line. -/
def carryOut (arguments : List String) : IO UInt32 := do
  match libraries.arguments arguments with
  | .error r => respond r
  | .ok path =>
    let configPath ← IO.getEnv "LS8_CONFIG"
    let filter := LogFilter.ofSetting (← IO.getEnv "RUST_LOG")
    let config ←
      match configPath with
      | some configPath => readText configPath
      | none => pure (.error .notFound)
    -- a configuration that is refused leaves the program file unread
    let found : Environment := { arguments, configPath, filter, contents := fun _ => config }
    let program ←
      match configuration libraries found with
      | .ok _ => readText path
      | .error _ => pure (.error .notFound)
    let contents := fun name => if some name = configPath then config else program
    let env : Environment := { arguments, configPath, filter, contents }
    match prepare libraries env path with
    | .error r => respond (refuse env r)
    | .ok job => runProgram filter job

end LS8.CommandLine

/-- Runs the program that the command line names. -/
def main (arguments : List String) : IO UInt32 :=
  LS8.CommandLine.carryOut arguments
