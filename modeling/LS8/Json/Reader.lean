import LS8.Json.Record

/-!
# Readers of JSON

A `Reader` turns a text into a value and a value into a record.  Whoever declares a record lists
its fields and gives the record whose fields are all left out; how a text is taken apart and in
what words it is refused is up to the reader.  `reader` is the one of this library.
-/

namespace LS8.Json

/-- What it takes to read records from texts.  Each part gives what it has read, or says in words
what is wrong. -/
structure Reader where
  /-- Reads a text as a value. -/
  parse : String → Except String Json
  /-- Reads a truth value. -/
  bool : Json → Except String Bool
  /-- Reads a number of eight bits. -/
  byte : Json → Except String UInt8
  /-- Reads a number of sixty-four bits. -/
  word : Json → Except String UInt64
  /-- Reads a value or its absence. -/
  optional : {α : Type} → (Json → Except String α) → Json → Except String (Option α)
  /-- Reads a record with the given fields, given the one whose fields are all left out. -/
  record : {σ : Type} → List (Field σ) → σ → Json → Except String σ

/-- The reader of this library. -/
def reader : Reader where
  parse text :=
    match parse? text with
    | some v => .ok v
    | none => .error "the text is not JSON"
  bool := readBool
  byte := readByte
  word := readWord
  optional := readOptional
  record := Field.readRecord

end LS8.Json
