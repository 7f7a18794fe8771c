/-!
# Command line arguments

A command line names one program file.  Options are read from left to right until two dashes,
after which everything is a name; the first option that asks for information and the first
mistake each end the reading.  Whoever names no file has a response instead: what was asked for, or
what was wrong with the arguments.
-/

namespace LS8.CommandLine

/-- What the command tells about itself. -/
inductive Topic where
  /-- Its version. -/
  | version
  /-- Its usage in short. -/
  | summary
  /-- Its usage in full. -/
  | help
  deriving DecidableEq, Repr

/-- What a command line asks for. -/
inductive Request where
  /-- To run the program in a file. -/
  | run (path : String)
  /-- To be told something about the command. -/
  | tell (topic : Topic)
  deriving DecidableEq, Repr

/-- Why a command line was refused. -/
inductive UsageError where
  /-- The argument is no option. -/
  | unknownOption (argument : String)
  /-- There is a file already. -/
  | unexpectedArgument (argument : String)
  /-- The name of the file is empty. -/
  | emptyPath
  /-- There is no file. -/
  | missingPath
  deriving DecidableEq, Repr

/-- The wording of a usage error. -/
def UsageError.message : UsageError → String
  | .unknownOption argument | .unexpectedArgument argument =>
    "error: unexpected argument '" ++ argument ++ "' found\n"
  | .emptyPath => "error: a value is required for '<PROGRAM>' but none was supplied\n"
  | .missingPath => "error: the following required arguments were not provided:\n  <PROGRAM>\n"

/-- Takes an argument as the name of the program file. -/
def takePath (path : Option String) (argument : String) : Except UsageError String :=
  match path with
  | some _ => .error (.unexpectedArgument argument)
  | none => if argument.isEmpty then .error .emptyPath else .ok argument

/-- Reads arguments that are all names. -/
def readNames (path : Option String) : List String → Except UsageError Request
  | [] =>
    match path with
    | some path => .ok (.run path)
    | none => .error .missingPath
  | argument :: rest => do
    readNames (some (← takePath path argument)) rest

/-- What an argument that begins with a dash asks for.  After a single dash the first letter
decides. -/
def option? (argument : String) : Except UsageError Request :=
  match argument.toList with
  | '-' :: '-' :: rest =>
    if rest = ['v', 'e', 'r', 's', 'i', 'o', 'n'] then .ok (.tell .version)
    else if rest = ['h', 'e', 'l', 'p'] then .ok (.tell .help)
    else .error (.unknownOption argument)
  | '-' :: 'V' :: _ => .ok (.tell .version)
  | '-' :: 'h' :: _ => .ok (.tell .summary)
  | _ => .error (.unknownOption argument)

/-- The argument is an option and not a name: it has a dash and something after it. -/
def isOption (argument : String) : Bool :=
  match argument.toList with
  | '-' :: _ :: _ => true
  | _ => false

/-- Reads arguments, options among them. -/
def readArguments (path : Option String) : List String → Except UsageError Request
  | [] => readNames path []
  | argument :: rest => do
    if argument = "--" then readNames path rest
    else if isOption argument then option? argument
    else readArguments (some (← takePath path argument)) rest

/-- What the arguments ask for. -/
def Request.ofArguments (arguments : List String) : Except UsageError Request :=
  readArguments none arguments

/-! ## Responses -/

/-- What an invocation leaves behind. -/
structure Response where
  /-- The exit code: zero for success, one for a failed run, two for a wrong command line. -/
  code : UInt32
  /-- Standard output. -/
  stdout : String := ""
  /-- Standard error. -/
  stderr : String := ""
  deriving DecidableEq, Repr

/-- The name and the version of the command. -/
def versionText : String :=
  "ls8 0.3.0\n"

/-- How the command is called. -/
def usageText : String :=
  "Usage: ls8 <PROGRAM>\n"

/-- The usage in short. -/
def summaryText : String :=
  "LS-8 8-bit CPU emulator\n\n" ++ usageText
    ++ "\nArguments:\n  <PROGRAM>  Program file to load at address 0\n"
    ++ "\nOptions:\n  -h, --help     Print help (see more with '--help')\n"
    ++ "  -V, --version  Print version\n"

/-- The usage in full. -/
def helpText : String :=
  "Load an LS-8 program (one binary byte per line, '#' starts a comment) and run it until HLT.\n"
    ++ "\nExamples:\n  ls8 programs/print8.ls8\n  RUST_LOG=debug ls8 programs/mult.ls8\n\n"
    ++ usageText
    ++ "\nArguments:\n  <PROGRAM>\n          Program file to load at address 0\n"
    ++ "\nOptions:\n  -h, --help\n          Print help (see a summary with '-h')\n"
    ++ "\n  -V, --version\n          Print version\n"

/-- What is told about a topic. -/
def topicText : Topic → String
  | .version => versionText
  | .summary => summaryText
  | .help => helpText

/-- The response to a wrong command line. -/
def reject (e : UsageError) : Response where
  code := 2
  stderr := e.message ++ "\n" ++ usageText ++ "\nFor more information, try '--help'.\n"

/-- The program file that the arguments name, or the response that they get instead. -/
def pathOfArguments (arguments : List String) : Except Response String :=
  match Request.ofArguments arguments with
  | .ok (.run path) => .ok path
  | .ok (.tell topic) => .error { code := 0, stdout := topicText topic }
  | .error e => .error (reject e)

end LS8.CommandLine
