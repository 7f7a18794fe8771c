import LS8.Proofs.ProgramText

/-!
# The numeral on a line

A line of a program has white space, then binary digits, then anything.  `LeadsWith` says which
digits these are without reading the line from left to right: the white space is the longest row of
white space that the line begins with, and the digits are the longest row of binary digits behind
it.  Every line leads with one row of digits and no other, which may be empty (`leadsWith_iff`).

Reading a line shifts its digits into a byte, where all but the last eight bits get lost.  The
digits may be any number, so what is read has to be compared with a numeral that has no bound:
`parseLine_reads_numeral` says that it is the number modulo 256.
-/

namespace LS8

open Text

/-! ## Rows of characters -/

namespace Text

/-- The characters with the property `White_Space`, in the order of their code points. -/
def whiteSpace : List Char :=
  ['\t', '\n', '\x0b', '\x0c', '\r', ' ', '\u0085', '\u00a0', '\u1680', '\u2000', '\u2001',
    '\u2002', '\u2003', '\u2004', '\u2005', '\u2006', '\u2007', '\u2008', '\u2009', '\u200a',
    '\u2028', '\u2029', '\u202f', '\u205f', '\u3000']

/-- The table of ranges has these characters and no others. -/
lemma isBlank_iff_mem_whiteSpace {c : Char} : isBlank c = true ↔ c ∈ whiteSpace := by
  have hblank : whiteSpace.all isBlank = true := by decide
  have htable : ∀ n ∈ blankRanges.flatMap fun range => List.range' range.1 (range.2 + 1 - range.1),
      Char.ofNat n ∈ whiteSpace := by
    decide
  refine ⟨fun h => ?_, List.all_eq_true.1 hblank c⟩
  obtain ⟨range, hrange, hc⟩ := List.any_eq_true.1 h
  rw [Bool.and_eq_true, decide_eq_true_eq, decide_eq_true_eq] at hc
  rw [← Char.ofNat_toNat c]
  refine htable _ (List.mem_flatMap.2 ⟨range, hrange, List.mem_range'_1.2 ⟨hc.1, ?_⟩⟩)
  omega

/-- A row of characters with a property that a text begins with, and the longest of them. -/
structure LongestRun (p : Char → Prop) (text run : List Char) : Prop where
  begins : run <+: text
  all : ∀ c ∈ run, p c
  longest : ∀ other, other <+: text → (∀ c ∈ other, p c) → other.length ≤ run.length

lemma longestRun_takeWhile (p : Char → Bool) (text : List Char) :
    LongestRun (fun c => p c = true) text (text.takeWhile p) where
  begins := List.takeWhile_prefix p
  all _ := List.mem_takeWhile_imp
  longest := by
    rintro other ⟨rest, rfl⟩ hother
    rw [List.takeWhile_append_of_pos hother, List.length_append]
    exact Nat.le_add_right ..

lemma LongestRun.unique {p : Char → Prop} {text run other : List Char}
    (h : LongestRun p text run) (h' : LongestRun p text other) : run = other := by
  have hle := h'.longest run h.begins h.all
  have hge := h.longest other h'.begins h'.all
  exact (List.prefix_of_prefix_length_le h.begins h'.begins hle).eq_of_length
    (Nat.le_antisymm hle hge)

lemma longestRun_iff {p : Char → Bool} {text run : List Char} :
    LongestRun (fun c => p c = true) text run ↔ run = text.takeWhile p := by
  constructor
  · exact fun h => h.unique (longestRun_takeWhile p text)
  · rintro rfl
    exact longestRun_takeWhile p text

end Text

/-! ## The digits of a line -/

/-- The binary digits of a line that follow its white space, as many as there are. -/
def LeadsWith (line digits : List Char) : Prop :=
  ∃ blanks rest, line = blanks ++ rest ∧ LongestRun (fun c => c ∈ whiteSpace) line blanks
    ∧ LongestRun (fun c => c = '0' ∨ c = '1') rest digits

lemma leadsWith_iff {line digits : List Char} :
    LeadsWith line digits ↔ digits = leadingDigits line := by
  simp only [LeadsWith, ← isBlank_iff_mem_whiteSpace, ← isBinaryDigit_iff, longestRun_iff]
  constructor
  · rintro ⟨blanks, rest, hline, rfl, rfl⟩
    have hrest : rest = line.dropWhile isBlank := by
      rw [← List.append_right_inj (line.takeWhile isBlank), ← hline,
        List.takeWhile_append_dropWhile]
    rw [leadingDigits, hrest]
  · rintro rfl
    exact ⟨_, line.dropWhile isBlank, List.takeWhile_append_dropWhile.symm, rfl, rfl⟩

lemma isBinaryDigit_of_mem_leadingDigits {line : List Char} :
    ∀ c ∈ leadingDigits line, isBinaryDigit c = true :=
  fun _ => List.mem_takeWhile_imp

lemma parseLine_eq_valueOf (line : List Char) :
    parseLine line = if leadingDigits line = [] then none
      else some (UInt8.ofNat (valueOf 2 (leadingDigits line))) := by
  have hbinary := @isBinaryDigit_of_mem_leadingDigits line
  rw [parseLine]
  cases hdigits : leadingDigits line with
  | nil => rfl
  | cons c rest =>
    rw [hdigits] at hbinary
    exact congrArg some (foldl_shiftIn hbinary)

/-- Modulo 256 a binary numeral is that of its last eight digits. -/
lemma valueOf_mod {digits : List Char} (h : ∀ c ∈ digits, isBinaryDigit c = true) :
    valueOf 2 digits % 256 = valueOf 2 (digits.drop (digits.length - 8)) := by
  have hlast : valueOf 2 (digits.drop (digits.length - 8)) < 256 := by
    have hdigit : ∀ c ∈ digits.drop (digits.length - 8), digitValue c < 2 :=
      fun c hc => isBinaryDigit_iff_digitValue.1 (h c (List.mem_of_mem_drop hc))
    have hlength : (digits.drop (digits.length - 8)).length ≤ 8 := by
      rw [List.length_drop]
      omega
    exact Nat.lt_of_lt_of_le (valueOf_lt hdigit) (Nat.pow_le_pow_right (by decide) hlength)
  by_cases hlong : 8 ≤ digits.length
  · have height : (digits.drop (digits.length - 8)).length = 8 := by
      rw [List.length_drop]
      omega
    have hcut := @valueOf_append 2 (digits.take (digits.length - 8))
      (digits.drop (digits.length - 8))
    rw [List.take_append_drop, height] at hcut
    omega
  · -- fewer than eight digits are all among the last eight
    rw [Nat.sub_eq_zero_of_le (by omega), List.drop_zero] at hlast ⊢
    exact Nat.mod_eq_of_lt hlast

/-- Digits in front of eight others do not count modulo 256, and zeros in front do not count at
all. -/
lemma valueOf_append_mod {front digits : List Char}
    (h : ∀ c ∈ front ++ digits, isBinaryDigit c = true)
    (hfront : 8 ≤ digits.length ∨ ∀ c ∈ front, c = '0') :
    valueOf 2 (front ++ digits) % 256 = valueOf 2 digits % 256 := by
  rcases hfront with hlong | hzeros
  · have hlast : (front ++ digits).drop ((front ++ digits).length - 8) =
        digits.drop (digits.length - 8) := by
      rw [List.length_append, Nat.add_sub_assoc hlong, List.drop_length_add_append]
    rw [valueOf_mod h, hlast, valueOf_mod (List.forall_mem_append.1 h).2]
  · rw [List.eq_replicate_of_mem hzeros, valueOf_replicate_append]

/-- **A line is read as a binary numeral.**  Every line leads with exactly one row of digits.  If the
row is empty, nothing is read; otherwise it is the number that the digits stand for, modulo 256,
which is the number of the last eight of them.  Another line that leads with the same digits is read
alike, whatever else is on it.  So is one that has more digits in front of these, if these are eight
or more or if those are zeros. -/
theorem parseLine_reads_numeral (line : String) :
    ∃ digits, (∀ other, LeadsWith line.toList other ↔ other = digits)
      ∧ (parseLine line.toList).map UInt8.toNat =
          (if digits = [] then none else some (valueOf 2 digits % 256))
      ∧ valueOf 2 digits % 256 = valueOf 2 (digits.drop (digits.length - 8))
      ∧ ∀ (other : String) (front : List Char), LeadsWith other.toList (front ++ digits) →
          (front = [] ∨ digits ≠ [] ∧ (8 ≤ digits.length ∨ ∀ c ∈ front, c = '0')) →
          parseLine other.toList = parseLine line.toList := by
  refine ⟨leadingDigits line.toList, fun _ => leadsWith_iff, ?_,
    valueOf_mod isBinaryDigit_of_mem_leadingDigits, ?_⟩
  · rw [parseLine_eq_valueOf]
    split
    · rfl
    · rw [Option.map_some, UInt8.toNat_ofNat']
  · intro other front hleads hfront
    have hdigits := leadsWith_iff.1 hleads
    have hbinary := @isBinaryDigit_of_mem_leadingDigits other.toList
    rw [parseLine_eq_valueOf other.toList, parseLine_eq_valueOf line.toList]
    rw [← hdigits] at hbinary ⊢
    rcases hfront with rfl | ⟨hne, hfront⟩
    · rfl
    · rw [if_neg hne, if_neg (List.append_ne_nil_of_right_ne_nil front hne)]
      refine congrArg some (UInt8.toNat.inj ?_)
      rw [UInt8.toNat_ofNat', UInt8.toNat_ofNat']
      exact valueOf_append_mod hbinary hfront

/-- Ten digits behind three kinds of white space, of which the first two do not count. -/
example : parseLine "\u00a0\u2003\t1100000010x1".toList = some 2 := by decide

end LS8
