import LS8.Text.Radix

/-!
# The output of a program

What a program prints goes to a sink, which may have room for a limited number of bytes and which
fails, once it is full, in a way fixed beforehand.  A write that does not fit keeps the bytes that
do; a failing flush loses nothing.  Everything printed is a decimal number and the end of its line,
so characters and bytes are the same here.

Whoever prints makes a write again for as long as it is interrupted.  A sink that is full and whose
failure is the interruption therefore never lets go of its writer.  An `Output` is a sink of any
other kind, so a program that prints to it always gets an answer.
-/

namespace LS8

/-- Why an output refused to take more: the kinds of errors that the operating system and the
libraries above it distinguish. -/
inductive WriteFailure where
  | addressInUse
  | addressNotAvailable
  | alreadyExists
  | argumentListTooLong
  /-- Nobody reads the other end. -/
  | brokenPipe
  | connectionAborted
  | connectionRefused
  | connectionReset
  | crossesDevices
  | deadlock
  | directoryNotEmpty
  | executableFileBusy
  | fileTooLarge
  | filesystemLoop
  | hostUnreachable
  | inProgress
  /-- The call was interrupted before it was done; it may be made again. -/
  | interrupted
  | invalidData
  | invalidFilename
  | invalidInput
  | isADirectory
  | networkDown
  | networkUnreachable
  | notADirectory
  | notConnected
  | notFound
  | notSeekable
  | outOfMemory
  /-- The output may not be written to. -/
  | permissionDenied
  | quotaExceeded
  | readOnlyFilesystem
  | resourceBusy
  | staleNetworkFileHandle
  /-- The medium is full. -/
  | storageFull
  | timedOut
  | tooManyLinks
  /-- The output ended before the data did. -/
  | unexpectedEnd
  | unsupported
  | wouldBlock
  /-- The output took no byte at all. -/
  | writeZero
  /-- A failure of no kind in particular. -/
  | other
  /-- A failure that the operating system reports and that is of none of the kinds. -/
  | uncategorized
  deriving DecidableEq, Repr

/-- The wording of a write failure. -/
def WriteFailure.message : WriteFailure → String
  | .addressInUse => "address in use"
  | .addressNotAvailable => "address not available"
  | .alreadyExists => "entity already exists"
  | .argumentListTooLong => "argument list too long"
  | .brokenPipe => "broken pipe"
  | .connectionAborted => "connection aborted"
  | .connectionRefused => "connection refused"
  | .connectionReset => "connection reset"
  | .crossesDevices => "cross-device link or rename"
  | .deadlock => "deadlock"
  | .directoryNotEmpty => "directory not empty"
  | .executableFileBusy => "executable file busy"
  | .fileTooLarge => "file too large"
  | .filesystemLoop => "filesystem loop or indirection limit (e.g. symlink loop)"
  | .hostUnreachable => "host unreachable"
  | .inProgress => "in progress"
  | .interrupted => "operation interrupted"
  | .invalidData => "invalid data"
  | .invalidFilename => "invalid filename"
  | .invalidInput => "invalid input parameter"
  | .isADirectory => "is a directory"
  | .networkDown => "network down"
  | .networkUnreachable => "network unreachable"
  | .notADirectory => "not a directory"
  | .notConnected => "not connected"
  | .notFound => "entity not found"
  | .notSeekable => "seek on unseekable file"
  | .outOfMemory => "out of memory"
  | .permissionDenied => "permission denied"
  | .quotaExceeded => "quota exceeded"
  | .readOnlyFilesystem => "read-only filesystem or storage medium"
  | .resourceBusy => "resource busy"
  | .staleNetworkFileHandle => "stale network file handle"
  | .storageFull => "no storage space"
  | .timedOut => "timed out"
  | .tooManyLinks => "too many links"
  | .unexpectedEnd => "unexpected end of file"
  | .unsupported => "unsupported"
  | .wouldBlock => "operation would block"
  | .writeZero => "write zero"
  | .other => "other error"
  | .uncategorized => "uncategorized error"

/-! ## Sinks -/

/-- A place that bytes can be written to. -/
structure Sink where
  /-- Everything that was written, in order. -/
  text : String := ""
  /-- How many more bytes fit; no number if there is no limit. -/
  room : Option Nat := none
  /-- How a write or a flush fails when it does. -/
  failure : WriteFailure := .brokenPipe
  /-- The flush after each line fails. -/
  flushFails : Bool := false
  deriving DecidableEq

namespace Sink

/-- One attempt to write characters: they are taken as far as there is room, and the attempt fails
if not all of them fitted. -/
def write (s : Sink) (cs : List Char) : Sink × Except WriteFailure Unit :=
  match s.room with
  | none => ({ s with text := s.text ++ String.ofList cs }, .ok ())
  | some n =>
    ({ s with text := s.text ++ String.ofList (cs.take n), room := some (n - cs.length) },
      if cs.length ≤ n then .ok () else .error s.failure)

/-- An attempt leaves room where there was room. -/
theorem write_room (s : Sink) (cs : List Char) :
    (s.write cs).1.room = s.room.map fun n => n - cs.length := by
  rw [write]
  cases s.room <;> rfl

theorem write_failure (s : Sink) (cs : List Char) : (s.write cs).1.failure = s.failure := by
  rw [write]
  cases s.room <;> rfl

/-- To flush what was written. -/
def flush (s : Sink) : Except WriteFailure Unit :=
  if s.flushFails then .error s.failure else .ok ()

/-- Whoever writes to the sink gets an answer, however often an interrupted write is made again. -/
abbrev Answers (s : Sink) : Prop :=
  s.room = none ∨ s.failure ≠ .interrupted

/-- A write leaves a sink that answers as one that does. -/
theorem Answers.write {s : Sink} (h : s.Answers) (cs : List Char) : (s.write cs).1.Answers := by
  rw [Answers, write_room, write_failure, Option.map_eq_none_iff]
  exact h

end Sink

/-! ## Outputs -/

/-- Where a program prints to: a sink that answers. -/
structure Output extends Sink where
  answers : toSink.Answers := by exact Or.inl rfl
  deriving DecidableEq

namespace Output

/-- An output without a limit that never fails. -/
def unlimited : Output := {}

/-- A byte as it is printed: its decimal digits and the end of the line. -/
def line (v : UInt8) : List Char :=
  Nat.toDigits 10 v.toNat ++ ['\n']

/-- Writes characters as far as there is room, and fails if not all of them fitted.  No attempt is
made again, since none is interrupted. -/
def write (o : Output) (cs : List Char) : Output × Except WriteFailure Unit :=
  let written := o.toSink.write cs
  ({ written.1 with answers := o.answers.write cs }, written.2)

/-- Prints a byte on a line of its own and flushes the output. -/
def print (o : Output) (v : UInt8) : Output × Except WriteFailure Unit :=
  let written := o.write (line v)
  (written.1, do written.2; written.1.flush)

end Output

end LS8
