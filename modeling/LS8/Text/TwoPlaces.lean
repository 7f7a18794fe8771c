import LS8.Text.Radix

/-!
# Decimals with two places

The text of a non-negative finite double with two digits after the point.  The double is taken
as the exact fraction that its bits denote, so the only rounding here is the one to hundredths:
to the nearest, and from the middle to the even neighbour.
-/

namespace LS8.Text

/-- The quotient `num / den` rounded to the nearest integer, a half to the even neighbour. -/
def roundDiv (num den : Nat) : Nat :=
  let quotient := num / den
  let remainder := num % den
  if 2 * remainder < den then quotient
  else if 2 * remainder = den ∧ quotient % 2 = 0 then quotient
  else quotient + 1

/-- The numerator and the denominator of a non-negative finite double: fifty-two bits of
significand under eleven bits of exponent, the leading bit implicit unless the exponent is zero. -/
def exactFraction (x : Float) : Nat × Nat :=
  let exponent := (x.toBits >>> 52).toNat % 0x800
  let significand := x.toBits.toNat % 0x10000000000000
  if exponent = 0 then (significand, 1 <<< 1074)
  else ((significand + 0x10000000000000) <<< (exponent - 1075), 1 <<< (1075 - exponent))

/-- A non-negative finite double in decimal with two places. -/
def twoPlaces (x : Float) : String :=
  let fraction := exactFraction x
  let hundredths := roundDiv (100 * fraction.1) fraction.2
  decimal (hundredths / 100) ++ "." ++ String.ofList (paddedDigits 10 2 (hundredths % 100))

end LS8.Text
