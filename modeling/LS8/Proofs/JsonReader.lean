import LS8.Json.Reader
import LS8.Proofs.JsonText

/-!
# Readers of JSON that keep to the rules

What can be relied on in a reader of JSON, whoever wrote it, is `Reader.Lawful`: a text in which the
tokens of a value are laid out is read as that value, values of the basic types are read back, and a
record that is written as an object has the fields that the object names, each of which may come
once.  Nothing is said about the words in which something is refused, nor about texts that are
nested deeper than a reader with limits follows.

The reader of this library is lawful (`lawful_reader`).
-/

namespace LS8.Json

/-- The value has at most so many arrays and objects inside each other, and its numbers are words
of sixty-four bits. -/
inductive Fits : Nat → Json → Prop where
  /-- The value `null`. -/
  | null {depth : Nat} : Fits depth .null
  /-- A truth value. -/
  | bool {depth : Nat} (b : Bool) : Fits depth (.bool b)
  /-- A number. -/
  | natural {depth : Nat} (w : UInt64) : Fits depth (.natural w.toNat)
  /-- A string. -/
  | string {depth : Nat} (text : String) : Fits depth (.string (some text))
  /-- An array. -/
  | array {depth : Nat} {items : List Json} (h : ∀ v ∈ items, Fits depth v) :
      Fits (depth + 1) (.array items)
  /-- An object. -/
  | object {depth : Nat} {members : List (Option String × Json)}
      (h : ∀ member ∈ members, Fits depth member.2) : Fits (depth + 1) (.object members)

/-- How deep a text may be nested for any reader to follow. -/
def nestingLimit : Nat := 127

/-- An object whose keys are the given texts. -/
def ofMembers (members : List (String × Json)) : Json :=
  .object (members.map fun member => (some member.1, member.2))

/-- What a reader of JSON can be relied on for. -/
structure Reader.Lawful (r : Reader) : Prop where
  /-- Any layout of the tokens of a value is read as the value. -/
  parse {v : Json} {text : String} (hfits : Fits nestingLimit v)
    (h : Laid v.tokens text.toList) : r.parse text = .ok v
  /-- A truth value is read back. -/
  bool (b : Bool) : r.bool (.bool b) = .ok b
  /-- A byte is read back. -/
  byte (b : UInt8) : r.byte (.natural b.toNat) = .ok b
  /-- A word is read back. -/
  word (w : UInt64) : r.word (.natural w.toNat) = .ok w
  /-- The value `null` is an absence. -/
  optional_null {α : Type} (read : Json → Except String α) : r.optional read .null = .ok none
  /-- Any other value is what it is read as. -/
  optional_some {α : Type} {read : Json → Except String α} {v : Json} {a : α} (hv : v ≠ .null)
    (ha : read v = .ok a) : r.optional read v = .ok (some a)
  /-- An object is a record if no field comes for the second time and every field that comes can
  be read.  The others are left out. -/
  record {σ : Type} (fields : List (Field σ)) (leftOut s : σ) (members : List (String × Json)) :
    r.record fields leftOut (ofMembers members) = .ok s ↔
      ((Field.known fields members).map Prod.fst).Nodup
        ∧ members.foldlM (Field.readMember fields) leftOut = .ok s

/-! ## The reader of this library -/

namespace Field

variable {σ : Type}

lemma namedMembers_ofMembers (members : List (String × Json)) :
    namedMembers (members.map fun member => (some member.1, member.2)) = .ok members := by
  induction members with
  | nil => rfl
  | cons member members ih =>
    rw [List.map_cons, namedMembers, ih]
    rfl

lemma repeated?_eq_none_iff (names : List String) : repeated? names = none ↔ names.Nodup := by
  induction names with
  | nil => exact iff_of_true rfl List.nodup_nil
  | cons name rest ih =>
    rw [repeated?, List.nodup_cons]
    by_cases h : name ∈ rest
    · rw [if_pos h]
      exact iff_of_false (Option.some_ne_none name) fun hrest => hrest.1 h
    · rw [if_neg h, ih]
      exact (and_iff_right h).symm

lemma readRecord_ofMembers (fields : List (Field σ)) (leftOut s : σ)
    (members : List (String × Json)) :
    readRecord fields leftOut (ofMembers members) = .ok s ↔
      ((known fields members).map Prod.fst).Nodup
        ∧ members.foldlM (readMember fields) leftOut = .ok s := by
  rw [ofMembers, readRecord, readObject, namedMembers_ofMembers, ← repeated?_eq_none_iff]
  simp only [bind, Except.bind]
  cases repeated? ((known fields members).map Prod.fst) with
  | none => exact (and_iff_right rfl).symm
  | some name => exact iff_of_false nofun fun h => Option.some_ne_none name h.1

end Field

lemma readNatBelow_of_lt {n bound : Nat} (h : n < bound) :
    readNatBelow bound (.natural n) = .ok n := by
  rw [readNatBelow, if_pos h]

/-- The reader of this library is lawful. -/
theorem lawful_reader : reader.Lawful where
  parse _ h := by simp only [reader, parse?_of_laid h]
  bool b := rfl
  byte b := by
    show (readNatBelow UInt8.size (.natural b.toNat)).map UInt8.ofNat = _
    rw [readNatBelow_of_lt b.toNat_lt_size, Except.map, UInt8.ofNat_toNat]
  word w := by
    show (readNatBelow UInt64.size (.natural w.toNat)).map UInt64.ofNat = _
    rw [readNatBelow_of_lt w.toNat_lt_size, Except.map, UInt64.ofNat_toNat]
  optional_null read := rfl
  optional_some hv ha := by
    show readOptional _ _ = _
    rw [readOptional]
    · rw [ha]
      rfl
    · exact hv
  record := Field.readRecord_ofMembers

end LS8.Json
