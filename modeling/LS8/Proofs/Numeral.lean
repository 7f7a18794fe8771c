import LS8.Text.Radix
import Mathlib.Algebra.Group.Nat.Defs
import Mathlib.Data.List.Basic
import Mathlib.Data.List.Induction

/-!
# Numerals

What a row of digits stands for, read from the left: `valueOf base digits` is the number, and
`Numeral base digits n` says that every digit is one of the base and that the number is `n`.  The
library writes its numbers with `paddedDigits`, which gives such a numeral (`numeral_paddedDigits`)
that is no longer than it has to be (`head?_paddedDigits`).
-/

namespace LS8.Text

/-- The digits up to base sixteen, each at the place that is its value. -/
def digitOrder : List Char :=
  "0123456789abcdef".toList

/-- The value of a digit; what is no digit has the value 16. -/
def digitValue (c : Char) : Nat :=
  digitOrder.idxOf c

/-- The number that a row of digits stands for, the first digit counting most. -/
def valueOf (base : Nat) (digits : List Char) : Nat :=
  digits.foldl (fun n c => base * n + digitValue c) 0

/-- The characters are digits of the base, and `n` is the number that they stand for. -/
structure Numeral (base : Nat) (digits : List Char) (n : Nat) : Prop where
  digit : ∀ c ∈ digits, digitValue c < base
  value : valueOf base digits = n

lemma digitValue_digitChar {d : Nat} (h : d < 16) : digitValue d.digitChar = d := by
  decide +revert

/-! ## The value of a row of digits -/

variable {base n k : Nat}

lemma valueOf_concat (digits : List Char) (c : Char) :
    valueOf base (digits ++ [c]) = base * valueOf base digits + digitValue c := by
  rw [valueOf, List.foldl_append]
  rfl

lemma valueOf_replicate_zero (k : Nat) : valueOf base (List.replicate k '0') = 0 := by
  induction k with
  | zero => rfl
  | succ k ih =>
    rw [List.replicate_succ', valueOf_concat, ih, Nat.mul_zero, Nat.zero_add]
    rfl

/-- Digits that stand in front of others count more, for each of these by a factor of the base. -/
lemma valueOf_append (front digits : List Char) :
    valueOf base (front ++ digits) =
      base ^ digits.length * valueOf base front + valueOf base digits := by
  induction digits using List.reverseRecOn with
  | nil => simp [valueOf]
  | append_singleton digits c ih =>
    rw [← List.append_assoc, valueOf_concat, valueOf_concat, ih, List.length_append,
      List.length_singleton, Nat.pow_succ, Nat.mul_add, Nat.add_assoc, ← Nat.mul_assoc,
      Nat.mul_comm base]

/-- Zeros in front of a numeral do not count. -/
lemma valueOf_replicate_append (k : Nat) (digits : List Char) :
    valueOf base (List.replicate k '0' ++ digits) = valueOf base digits := by
  rw [valueOf_append, valueOf_replicate_zero, Nat.mul_zero, Nat.zero_add]

/-- There are as many numbers of some length as the base has powers. -/
lemma valueOf_lt {digits : List Char} (h : ∀ c ∈ digits, digitValue c < base) :
    valueOf base digits < base ^ digits.length := by
  induction digits using List.reverseRecOn with
  | nil => exact Nat.one_pos
  | append_singleton digits c ih =>
    rw [List.forall_mem_append, List.forall_mem_singleton] at h
    have hfront : valueOf base digits + 1 ≤ base ^ digits.length := ih h.1
    rw [valueOf_concat, List.length_append, List.length_singleton, Nat.pow_succ]
    calc base * valueOf base digits + digitValue c
        < base * valueOf base digits + base := Nat.add_lt_add_left h.2 _
      _ = base * (valueOf base digits + 1) := (Nat.mul_succ ..).symm
      _ ≤ base * base ^ digits.length := Nat.mul_le_mul_left base hfront
      _ = base ^ digits.length * base := Nat.mul_comm ..

/-! ## Written numbers -/

lemma numeral_toDigits (hlow : 1 < base) (hhigh : base ≤ 16) (n : Nat) :
    Numeral base (Nat.toDigits base n) n := by
  induction n using Nat.strongRecOn with
  | ind n ih =>
    rw [Nat.toDigits_eq_if hlow]
    by_cases hn : n < base
    · have hvalue := digitValue_digitChar (Nat.lt_of_lt_of_le hn hhigh)
      rw [if_pos hn]
      refine ⟨?_, ?_⟩
      · intro c hc
        rw [List.mem_singleton.1 hc, hvalue]
        exact hn
      · rw [← List.nil_append [_], valueOf_concat, hvalue]
        exact Nat.zero_add n
    · have hlast : n % base < base := Nat.mod_lt n (Nat.zero_lt_of_lt hlow)
      have hvalue := digitValue_digitChar (Nat.lt_of_lt_of_le hlast hhigh)
      have hsmaller : n / base < n := Nat.div_lt_self (by omega) hlow
      obtain ⟨hdigit, hfront⟩ := ih (n / base) hsmaller
      rw [if_neg hn]
      refine ⟨?_, ?_⟩
      · intro c hc
        rcases List.mem_append.1 hc with hc | hc
        · exact hdigit c hc
        · rw [List.mem_singleton.1 hc, hvalue]
          exact hlast
      · rw [valueOf_concat, hfront, hvalue]
        exact Nat.div_add_mod n base

lemma isDigit_of_mem_toDigits {c : Char} (h : c ∈ Nat.toDigits 10 n) : c.isDigit = true :=
  Nat.isDigit_of_mem_toDigits (by decide) (by decide) h

lemma numeral_paddedDigits (hlow : 1 < base) (hhigh : base ≤ 16) (width n : Nat) :
    Numeral base (paddedDigits base width n) n := by
  obtain ⟨hdigit, hvalue⟩ := numeral_toDigits hlow hhigh n
  rw [paddedDigits, List.leftpad]
  refine ⟨?_, ?_⟩
  · intro c hc
    rcases List.mem_append.1 hc with hc | hc
    · rw [List.eq_of_mem_replicate hc]
      exact Nat.zero_lt_of_lt hlow
    · exact hdigit c hc
  · rw [valueOf_replicate_append, hvalue]

lemma length_paddedDigits (base width n : Nat) :
    (paddedDigits base width n).length = max width (Nat.toDigits base n).length :=
  List.length_leftpad

/-- The first digit of a number other than zero is not zero. -/
lemma head?_toDigits (hlow : 1 < base) (hn : 0 < n) :
    (Nat.toDigits base n).head? ≠ some '0' := by
  induction n using Nat.strongRecOn with
  | ind n ih =>
    rw [Nat.toDigits_eq_if hlow]
    by_cases hlt : n < base
    · rw [if_pos hlt, List.head?_cons, ne_eq, Option.some_inj, Nat.digitChar_eq_zero]
      exact Nat.pos_iff_ne_zero.1 hn
    · have hpos : 0 < n / base := Nat.div_pos (Nat.not_lt.1 hlt) (Nat.zero_lt_of_lt hlow)
      rw [if_neg hlt, List.head?_append_of_ne_nil _ Nat.toDigits_ne_nil]
      exact ih (n / base) (Nat.div_lt_self hn hlow) hpos

/-- A padded number that is longer than it has to be does not begin with zero. -/
lemma head?_paddedDigits {width : Nat} (hlow : 1 < base) (hwidth : 0 < width)
    (hlong : width < (paddedDigits base width n).length) :
    (paddedDigits base width n).head? ≠ some '0' := by
  rw [length_paddedDigits] at hlong
  have hdigits : width < (Nat.toDigits base n).length := by omega
  have hn : 0 < n := by
    rw [Nat.pos_iff_ne_zero]
    rintro rfl
    rw [Nat.toDigits_zero, List.length_singleton] at hdigits
    omega
  rw [paddedDigits, List.leftpad, Nat.sub_eq_zero_of_le (Nat.le_of_lt hdigits), List.replicate_zero,
    List.nil_append]
  exact head?_toDigits hlow hn

end LS8.Text
