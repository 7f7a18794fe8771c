import LS8.Json.Value
import LS8.Text.Radix

/-!
# Records in JSON

A record is a sequence of named fields.  It may be written as an object, in which any field may
be left out and members with other names are passed over, or as an array of its first fields in
order.  Reading starts from the record whose fields are all left out and fills one field after the
other.
-/

namespace LS8.Json

open Text

/-- A field of a record of type `σ`: its name, how its value is read and where the value goes. -/
structure Field (σ : Type) where
  /-- The name. -/
  name : String
  /-- The type of the field. -/
  {Value : Type}
  /-- Reads a value of that type, or says why it is none. -/
  read : Json → Except String Value
  /-- Puts a value into the record. -/
  set : Value → σ → σ

namespace Field

variable {σ : Type}

/-- Reads a value into the field. -/
def fill (field : Field σ) (v : Json) (s : σ) : Except String σ :=
  (field.read v).map fun a => field.set a s

/-- The members that are named as a field. -/
def known (fields : List (Field σ)) (members : List (String × Json)) : List (String × Json) :=
  members.filter fun member => fields.any fun field => field.name == member.1

/-- Reads a member into the field of its name; a member of another name changes nothing. -/
def readMember (fields : List (Field σ)) (s : σ) (member : String × Json) : Except String σ :=
  match fields.find? fun field => field.name == member.1 with
  | some field => field.fill member.2 s
  | none => .ok s

/-- The keys and values of an object, if all of its keys are texts. -/
def namedMembers : List (Option String × Json) → Except String (List (String × Json))
  | [] => .ok []
  | (none, _) :: _ => .error "lone surrogate in a key"
  | (some key, v) :: rest => (namedMembers rest).map ((key, v) :: ·)

/-- The first name that comes again. -/
def repeated? : List String → Option String
  | [] => none
  | name :: rest => if name ∈ rest then some name else repeated? rest

/-- Reads the members of an object, none of which may be a field for the second time. -/
def readObject (fields : List (Field σ)) (members : List (Option String × Json)) (s : σ) :
    Except String σ := do
  let members ← namedMembers members
  match repeated? ((known fields members).map Prod.fst) with
  | some name => .error ("duplicate field `" ++ name ++ "`")
  | none => members.foldlM (readMember fields) s

/-- Reads the items of an array, each into the next field; there may not be more items than
fields. -/
def readArray : List (Field σ) → List Json → σ → Except String σ
  | _, [], s => .ok s
  | [], _ :: _, _ => .error "more items than fields"
  | field :: fields, item :: items, s => do
    readArray fields items (← field.fill item s)

/-- Reads a record, given the one whose fields are all left out. -/
def readRecord (fields : List (Field σ)) (leftOut : σ) : Json → Except String σ
  | .object members => readObject fields members leftOut
  | .array items => readArray fields items leftOut
  | _ => .error "invalid type: expected a record"

end Field

/-! ## Fields of one value -/

/-- Reads a truth value. -/
def readBool : Json → Except String Bool
  | .bool b => .ok b
  | _ => .error "invalid type: expected a truth value"

/-- Reads a natural number below a bound. -/
def readNatBelow (bound : Nat) : Json → Except String Nat
  | .natural n =>
    if n < bound then .ok n
    else .error ("invalid value: expected less than " ++ decimal bound ++ ", got " ++ decimal n)
  | _ => .error "invalid type: expected a natural number"

/-- Reads a byte. -/
def readByte (v : Json) : Except String UInt8 :=
  (readNatBelow UInt8.size v).map .ofNat

/-- Reads a word. -/
def readWord (v : Json) : Except String UInt64 :=
  (readNatBelow UInt64.size v).map .ofNat

/-- Reads a value or its absence. -/
def readOptional {α : Type} (read : Json → Except String α) : Json → Except String (Option α)
  | .null => .ok none
  | v => (read v).map some

end LS8.Json
