import LS8.Event
import LS8.File
import LS8.Ram
import LS8.Text.Blank
import LS8.Text.Lines

/-!
# Program text

A program is a text with a binary numeral on each line.  After leading white space the longest
run of binary digits on a line is a byte, of which only the last eight digits count; whatever
follows the run is a comment.  Lines that do not begin with a binary digit are skipped.

`Ram.loadProgram` puts the bytes into memory.
-/

namespace LS8

open Text

/-- A program as it was read from a text. -/
structure Program where
  /-- The bytes, in order. -/
  bytes : List UInt8
  /-- How many lines carried no byte. -/
  skipped : Nat
  deriving DecidableEq, Repr

/-- The character is a binary digit. -/
def isBinaryDigit (c : Char) : Bool :=
  c == '0' || c == '1'

/-- The digits at the head of a line, after its leading white space. -/
def leadingDigits (line : List Char) : List Char :=
  (line.dropWhile isBlank).takeWhile isBinaryDigit

/-- Shifts a binary digit into a byte from the right. -/
def shiftIn (v : UInt8) (c : Char) : UInt8 :=
  (v <<< 1) ||| (if c = '1' then 1 else 0)

/-- The byte on a line, if there is one. -/
def parseLine (line : List Char) : Option UInt8 :=
  match leadingDigits line with
  | [] => none
  | digits => some (digits.foldl shiftIn 0)

namespace Program

/-- The program in a text. -/
def parse (text : String) : Program :=
  let parsed := (lines text.toList).map parseLine
  ⟨parsed.filterMap id, parsed.countP Option.isNone⟩

/-- What is recorded when a text has been read as a program. -/
def event (p : Program) : Event :=
  .programParsed p.bytes.length p.skipped

end Program

/-- Why a program could not be put into memory. -/
inductive LoadError where
  /-- The program file could not be read. -/
  | unreadable (path : String) (failure : ReadFailure)
  /-- The program has more bytes than memory has cells. -/
  | tooLong (fault : Fault)
  deriving DecidableEq, Repr

/-- The wording of a load error. -/
def LoadError.message : LoadError → String
  | .unreadable path failure => "could not read program '" ++ path ++ "': " ++ failure.message
  | .tooLong fault => "program does not fit in memory: " ++ fault.message

/-- Stores a program in a memory from address 0 on and counts its bytes. -/
def Ram.loadProgram (ram : Ram) (program : List UInt8) : Ram × Except LoadError Nat :=
  match ram.load program with
  | (loaded, .ok ()) => (loaded, .ok program.length)
  | (loaded, .error fault) => (loaded, .error (.tooLong fault))

/-- The program in a file, given what reading the file at `path` ended in. -/
def Program.ofFile (path : String) (contents : Except ReadFailure String) :
    Except LoadError Program :=
  match contents with
  | .error failure => .error (.unreadable path failure)
  | .ok text => .ok (parse text)

end LS8
