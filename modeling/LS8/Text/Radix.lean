/-!
# Numerals of a fixed width

Addresses and bytes are written with a least number of digits: an address in base sixteen with
at least two digits after `0x`, a byte in exactly two digits of base sixteen or, after `0b`, in
exactly eight of base two.  All of them are one function, `paddedDigits`, at different bases and
widths; a number that needs more digits than the width keeps them all.
-/

namespace LS8.Text

/-- The digits of `n` in base `base`, filled up on the left with zeros to `width` digits. -/
def paddedDigits (base width n : Nat) : List Char :=
  List.leftpad width '0' (Nat.toDigits base n)

/-- An address: `0x` and its lower-case digits in base sixteen, at least two of them. -/
def hexAddress (n : Nat) : String :=
  "0x" ++ String.ofList (paddedDigits 16 2 n)

/-- A byte as two lower-case digits in base sixteen. -/
def hexByte (b : UInt8) : String :=
  String.ofList (paddedDigits 16 2 b.toNat)

/-- A byte as its bit pattern: `0b` and eight binary digits. -/
def binaryByte (b : UInt8) : String :=
  "0b" ++ String.ofList (paddedDigits 2 8 b.toNat)

/-- A number in decimal. -/
def decimal (n : Nat) : String :=
  String.ofList (Nat.toDigits 10 n)

end LS8.Text
