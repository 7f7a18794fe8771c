/-!
# Files

What reading a file as text may end in.  The library never opens a file: it is given the result
of reading one and decides from that.
-/

namespace LS8

/-- Why a file could not be read as text. -/
inductive ReadFailure where
  /-- There is no file of that name. -/
  | notFound
  /-- The name is that of a directory. -/
  | isDirectory
  /-- The bytes of the file are not a text in UTF-8. -/
  | notText
  /-- Anything else, in the words of the operating system. -/
  | other (message : String)
  deriving DecidableEq, Repr

/-- The wording of a failure to read. -/
def ReadFailure.message : ReadFailure → String
  | .notFound => "No such file or directory (os error 2)"
  | .isDirectory => "Is a directory (os error 21)"
  | .notText => "stream did not contain valid UTF-8"
  | .other message => message

/-- The text that the bytes of a file encode. -/
def decodeText (bytes : ByteArray) : Except ReadFailure String :=
  match String.fromUTF8? bytes with
  | some text => .ok text
  | none => .error .notText

end LS8
