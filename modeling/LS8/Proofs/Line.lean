import LS8.Machine.Interrupt
import Mathlib.Data.List.Sort
import Mathlib.Data.Nat.Bitwise
import Mathlib.Tactic.IntervalCases

/-!
# Interrupt lines as bits

The mask and the status register hold a bit for each interrupt line.  This file reads them bit by
bit, as `Nat.testBit` of the number in the register: clearing a line changes its own bit alone
(`testBit_clear`), and the line that a dispatch selects is the lowest one set
(`lowestLine?_eq_some_iff`).  All lines that are set, the lowest first, are `linesOf`; clearing the
lowest leaves the others (`linesOf_clear`).
-/

namespace LS8

/-! ## Bits of a byte -/

lemma eq_of_testBit {p q : UInt8} (h : ∀ j, p.toNat.testBit j = q.toNat.testBit j) : p = q :=
  UInt8.toNat.inj (Nat.eq_of_testBit_eq h)

lemma testBit_and (p q : UInt8) (j : Nat) :
    (p &&& q).toNat.testBit j = (p.toNat.testBit j && q.toNat.testBit j) := by
  rw [UInt8.toNat_and, Nat.testBit_and]

lemma testBit_not (p : UInt8) {j : Nat} (h : j < 8) :
    (~~~p).toNat.testBit j = !p.toNat.testBit j := by
  simp only [UInt8.toNat, UInt8.toBitVec_not, BitVec.testBit_toNat, BitVec.getLsbD_not]
  simp [h]

lemma testBit_of_le (p : UInt8) {j : Nat} (h : 8 ≤ j) : p.toNat.testBit j = false := by
  apply Nat.testBit_lt_two_pow
  calc p.toNat < 2 ^ 8 := p.toNat_lt
    _ ≤ 2 ^ j := Nat.pow_le_pow_right (by decide) h

/-- Clearing some lines and then others clears them all. -/
lemma and_not_and_not (s p q : UInt8) : s &&& ~~~p &&& ~~~q = s &&& ~~~(p ||| q) := by
  refine eq_of_testBit fun j => ?_
  by_cases hj : j < 8
  · simp only [testBit_and, testBit_not _ hj, UInt8.toNat_or, Nat.testBit_or, Bool.not_or,
      Bool.and_assoc]
  · rw [testBit_of_le _ (Nat.le_of_not_lt hj), testBit_of_le _ (Nat.le_of_not_lt hj)]

lemma toNat_lineBit {line : Nat} (h : line < interruptLines) :
    (lineBit line).toNat = 1 <<< line := by
  unfold interruptLines at h
  interval_cases line <;> rfl

lemma testBit_lineBit {line : Nat} (h : line < interruptLines) (j : Nat) :
    (lineBit line).toNat.testBit j = decide (line = j) := by
  rw [toNat_lineBit h, Nat.one_shiftLeft, Nat.testBit_two_pow]

/-- Clearing a line changes the bit of that line alone. -/
lemma testBit_clear (p : UInt8) {line : Nat} (h : line < interruptLines) (j : Nat) :
    (p &&& ~~~lineBit line).toNat.testBit j = (p.toNat.testBit j && decide (line ≠ j)) := by
  by_cases hj : j < 8
  · rw [testBit_and, testBit_not _ hj, testBit_lineBit h]
    simp
  · rw [testBit_of_le _ (Nat.le_of_not_lt hj), testBit_of_le _ (Nat.le_of_not_lt hj)]
    rfl

lemma and_lineBit_ne_zero_iff (p : UInt8) {line : Nat} (h : line < interruptLines) :
    (p &&& lineBit line) ≠ 0 ↔ p.toNat.testBit line = true := by
  constructor
  · intro hne
    by_contra hbit
    apply hne
    refine eq_of_testBit fun j => ?_
    rw [testBit_and, testBit_lineBit h]
    by_cases hj : line = j
    · subst hj
      simpa using hbit
    · simp [hj]
  · intro hbit hzero
    have hand := testBit_and p (lineBit line) line
    rw [hzero, hbit, testBit_lineBit h] at hand
    simp at hand

/-! ## The lowest line -/

/-- A line is the lowest of those whose bits are set. -/
def IsLowestLine (pending : UInt8) (line : Nat) : Prop :=
  pending.toNat.testBit line = true ∧ ∀ lower < line, pending.toNat.testBit lower = false

lemma IsLowestLine.lt {pending : UInt8} {line : Nat} (h : IsLowestLine pending line) :
    line < interruptLines := by
  by_contra hge
  have hbit := h.1
  rw [testBit_of_le pending (Nat.le_of_not_lt hge)] at hbit
  cases hbit

/-- The search finds the lowest line. -/
lemma lowestLine?_eq_some_iff {pending : UInt8} {line : Nat} :
    lowestLine? pending = some line ↔ IsLowestLine pending line := by
  have hset : ∀ l, l < interruptLines →
      ((pending &&& lineBit l != 0) = true ↔ pending.toNat.testBit l = true) := by
    intro l hl
    rw [bne_iff_ne]
    exact and_lineBit_ne_zero_iff pending hl
  unfold lowestLine?
  rw [List.find?_range_eq_some]
  constructor
  · rintro ⟨hbit, hmem, hlower⟩
    have hlt : line < interruptLines := List.mem_range.1 hmem
    refine ⟨(hset line hlt).1 hbit, fun lower hl => ?_⟩
    have hclear := hlower lower hl
    rw [Bool.not_eq_true', ← Bool.not_eq_true, hset lower (hl.trans hlt)] at hclear
    simpa using hclear
  · intro h
    refine ⟨(hset line h.lt).2 h.1, List.mem_range.2 h.lt, fun lower hl => ?_⟩
    have hclear := h.2 lower hl
    rw [Bool.not_eq_true', ← Bool.not_eq_true, hset lower (hl.trans h.lt), hclear]
    simp

/-- A search finds nothing only if no line is set at all. -/
lemma lowestLine?_eq_none_iff {pending : UInt8} : lowestLine? pending = none ↔ pending = 0 := by
  unfold lowestLine?
  rw [List.find?_eq_none]
  constructor
  · intro h
    refine eq_of_testBit fun j => ?_
    by_cases hj : j < interruptLines
    · have hclear := h j (List.mem_range.2 hj)
      rw [bne_iff_ne, and_lineBit_ne_zero_iff pending hj] at hclear
      simpa using hclear
    · rw [testBit_of_le pending (Nat.le_of_not_lt hj)]
      simp
  · intro h line _
    simp [h]

/-! ## All lines -/

/-- The lines whose bits are set, the lowest first. -/
def linesOf (pending : UInt8) : List Nat :=
  (List.range interruptLines).filter fun line => pending.toNat.testBit line

lemma mem_linesOf {pending : UInt8} {line : Nat} :
    line ∈ linesOf pending ↔ pending.toNat.testBit line = true := by
  rw [linesOf, List.mem_filter, List.mem_range]
  constructor
  · rintro ⟨-, hbit⟩
    exact hbit
  · intro hbit
    refine ⟨?_, hbit⟩
    by_contra hge
    rw [testBit_of_le pending (Nat.le_of_not_lt hge)] at hbit
    cases hbit

lemma pairwise_linesOf (pending : UInt8) : (linesOf pending).Pairwise (· < ·) :=
  List.pairwise_lt_range.filter _

lemma isLowestLine_of_linesOf {pending : UInt8} {line : Nat} {rest : List Nat}
    (h : linesOf pending = line :: rest) : IsLowestLine pending line := by
  have hsorted := pairwise_linesOf pending
  rw [h, List.pairwise_cons] at hsorted
  refine ⟨mem_linesOf.1 (h ▸ List.mem_cons_self), fun lower hlower => ?_⟩
  rw [← Bool.not_eq_true, ← mem_linesOf, h, List.mem_cons]
  rintro (rfl | hlater)
  · exact Nat.lt_irrefl _ hlower
  · exact Nat.lt_asymm hlower (hsorted.1 lower hlater)

lemma linesOf_eq_nil_iff {pending : UInt8} : linesOf pending = [] ↔ pending = 0 := by
  constructor
  · intro hnil
    refine eq_of_testBit fun j => ?_
    have hclear : j ∉ linesOf pending := by
      rw [hnil]
      exact List.not_mem_nil
    rw [mem_linesOf, Bool.not_eq_true] at hclear
    rw [hclear]
    exact (Nat.zero_testBit j).symm
  · rintro rfl
    rfl

/-- The other lines are those that are left when the lowest is cleared. -/
lemma linesOf_clear {pending : UInt8} {line : Nat} {rest : List Nat}
    (h : linesOf pending = line :: rest) : linesOf (pending &&& ~~~lineBit line) = rest := by
  have hsorted := pairwise_linesOf pending
  have hmem : ∀ other, other ∈ linesOf pending ↔ other = line ∨ other ∈ rest := by
    intro other
    rw [h, List.mem_cons]
  rw [h, List.pairwise_cons] at hsorted
  refine List.Pairwise.eq_of_mem_iff (pairwise_linesOf _) hsorted.2 fun other => ?_
  rw [mem_linesOf, testBit_clear _ (isLowestLine_of_linesOf h).lt, Bool.and_eq_true,
    ← mem_linesOf, hmem, decide_eq_true_iff]
  constructor
  · rintro ⟨rfl | hrest, hne⟩
    · exact absurd rfl hne
    · exact hrest
  · intro hrest
    exact ⟨Or.inr hrest, Nat.ne_of_lt (hsorted.1 other hrest)⟩

/-- A pending line and the others are all that is pending. -/
lemma lineBit_or_clear {p : UInt8} {line : Nat} (h : IsLowestLine p line) :
    lineBit line ||| (p &&& ~~~lineBit line) = p := by
  refine eq_of_testBit fun j => ?_
  rw [UInt8.toNat_or, Nat.testBit_or, testBit_lineBit h.lt, testBit_clear _ h.lt]
  by_cases hj : line = j
  · subst hj
    rw [h.1]
    simp
  · simp [hj]

end LS8
