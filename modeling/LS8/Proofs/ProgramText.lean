import LS8.Proofs.Numeral
import LS8.Proofs.Reached
import Mathlib.Data.List.Induction

/-!
# Program text

A program may be written down in many ways.  `ProgramLine` says what a line looks like that carries
a byte or none: the byte is eight binary digits, with white space in front and anything behind that
is no further digit.  `ProgramText` puts such lines one under the other, each ended in one of the
two customary ways.  Reading a text gives back the bytes that it carries, whatever stands around
them (`parse_programText`).
-/

namespace LS8

open Text

/-- A line of a program and the byte that it carries, if it carries one. -/
inductive ProgramLine : List Char → Option UInt8 → Prop where
  /-- Eight binary digits after white space.  What follows them is no digit. -/
  | byte {blanks digits comment : List Char} {v : UInt8}
      (hblanks : ∀ c ∈ blanks, isBlank c = true ∧ c ≠ '\n')
      (hdigits : Numeral 2 digits v.toNat) (height : digits.length = 8)
      (hcomment : '\n' ∉ comment) (hends : ∀ c ∈ comment.head?, c ≠ '0' ∧ c ≠ '1') :
      ProgramLine (blanks ++ digits ++ comment) (some v)
  /-- Nothing after white space, or something that does not begin with a digit. -/
  | other {blanks comment : List Char}
      (hblanks : ∀ c ∈ blanks, isBlank c = true ∧ c ≠ '\n')
      (hcomment : '\n' ∉ comment)
      (hbegins : ∀ c ∈ comment.head?, isBlank c = false ∧ c ≠ '0' ∧ c ≠ '1') :
      ProgramLine (blanks ++ comment) none

/-- A text, the bytes that its lines carry and the number of its lines. -/
inductive ProgramText : List Char → List UInt8 → Nat → Prop where
  /-- A text without lines. -/
  | empty : ProgramText [] [] 0
  /-- The end of the last line may be missing if there is something on the line. -/
  | unended {line : List Char} {v : Option UInt8} (hline : ProgramLine line v) (hne : line ≠ []) :
      ProgramText line v.toList 1
  /-- One more line in front, ended by a line feed or by a carriage return and a line feed. -/
  | ended {line ending rest : List Char} {v : Option UInt8} {bytes : List UInt8} {n : Nat}
      (hline : ProgramLine line v) (hending : ending = ['\n'] ∨ ending = ['\r', '\n'])
      (hrest : ProgramText rest bytes n) :
      ProgramText (line ++ ending ++ rest) (v.toList ++ bytes) (n + 1)

/-! ## Cutting a text into lines -/

namespace Text

/-- A line without a carriage return at its end. -/
def withoutReturn (line : List Char) : List Char :=
  (dropReturn line.reverse).reverse

lemma dropReturn_eq (cs : List Char) : dropReturn cs = cs ∨ cs = '\r' :: dropReturn cs := by
  rw [dropReturn.eq_def]
  split
  · exact Or.inr rfl
  · exact Or.inl rfl

lemma withoutReturn_eq (line : List Char) :
    withoutReturn line = line ∨ line = withoutReturn line ++ ['\r'] := by
  rcases dropReturn_eq line.reverse with hkept | hdropped
  · left
    rw [withoutReturn, hkept, List.reverse_reverse]
  · right
    have hline := congrArg List.reverse hdropped
    rw [List.reverse_reverse, List.reverse_cons] at hline
    exact hline

lemma linesAfter_append {line : List Char} (h : '\n' ∉ line) (begun rest : List Char) :
    linesAfter begun (line ++ rest) = linesAfter (line.reverse ++ begun) rest := by
  induction line generalizing begun with
  | nil => rfl
  | cons c line ih =>
    rw [List.mem_cons, not_or] at h
    have hstep : linesAfter begun (c :: (line ++ rest)) =
        linesAfter (c :: begun) (line ++ rest) := by
      rw [linesAfter]
      exact fun hc => h.1 hc.symm
    rw [List.cons_append, hstep, ih h.2, List.reverse_cons, List.append_assoc]
    rfl

/-- A line feed ends a line. -/
lemma lines_ended {line : List Char} (h : '\n' ∉ line) (rest : List Char) :
    lines (line ++ '\n' :: rest) = withoutReturn line :: lines rest := by
  rw [lines, linesAfter_append h, List.append_nil]
  rfl

/-- The end of the text ends a line as well, if there is something on it. -/
lemma lines_unended {line : List Char} (h : '\n' ∉ line) (hne : line ≠ []) :
    lines line = [line] := by
  have hlines := linesAfter_append h [] []
  have hbegun : line.reverse.isEmpty = false := by
    rw [List.isEmpty_reverse, List.isEmpty_eq_false_iff]
    exact hne
  rw [List.append_nil, List.append_nil, linesAfter, hbegun] at hlines
  rw [lines, hlines, if_neg Bool.false_ne_true, List.reverse_reverse]

end Text

/-! ## Reading a line -/

lemma isBinaryDigit_iff {c : Char} : isBinaryDigit c = true ↔ c = '0' ∨ c = '1' := by
  rw [isBinaryDigit, Bool.or_eq_true, beq_iff_eq, beq_iff_eq]

lemma isBinaryDigit_eq_false {c : Char} (h : c ≠ '0' ∧ c ≠ '1') : isBinaryDigit c = false := by
  rw [← Bool.not_eq_true, isBinaryDigit_iff, not_or]
  exact h

lemma isBinaryDigit_iff_digitValue {c : Char} : isBinaryDigit c = true ↔ digitValue c < 2 := by
  have horder : digitOrder = '0' :: '1' :: "23456789abcdef".toList := by decide
  rw [isBinaryDigit_iff]
  constructor
  · rintro (rfl | rfl) <;> decide
  · intro h
    by_contra hne
    rw [not_or] at hne
    rw [digitValue, horder, List.idxOf_cons_ne _ (Ne.symm hne.1),
      List.idxOf_cons_ne _ (Ne.symm hne.2)] at h
    omega

lemma isBlank_of_isBinaryDigit {c : Char} (h : isBinaryDigit c = true) : isBlank c = false := by
  rcases isBinaryDigit_iff.1 h with rfl | rfl <;> decide

/-- Shifting in a binary digit doubles a byte and adds the digit. -/
lemma shiftIn_eq {c : Char} (h : isBinaryDigit c = true) (v : UInt8) :
    shiftIn v c = 2 * v + UInt8.ofNat (digitValue c) := by
  have hzero : ∀ n < 256, shiftIn (UInt8.ofNat n) '0' = 2 * UInt8.ofNat n + 0 := by
    decide +kernel
  have hone : ∀ n < 256, shiftIn (UInt8.ofNat n) '1' = 2 * UInt8.ofNat n + 1 := by
    decide +kernel
  rw [← @UInt8.ofNat_toNat v]
  rcases isBinaryDigit_iff.1 h with rfl | rfl
  · exact hzero v.toNat v.toNat_lt
  · exact hone v.toNat v.toNat_lt

/-- Binary digits that are shifted into a byte make up their number, of which it keeps the last
eight bits. -/
lemma foldl_shiftIn {digits : List Char} (h : ∀ c ∈ digits, isBinaryDigit c = true) :
    digits.foldl shiftIn 0 = UInt8.ofNat (valueOf 2 digits) := by
  induction digits using List.reverseRecOn with
  | nil => rfl
  | append_singleton front c ih =>
    rw [List.forall_mem_append, List.forall_mem_singleton] at h
    rw [List.foldl_append, List.foldl_cons, List.foldl_nil, ih h.1, shiftIn_eq h.2, valueOf_concat,
      UInt8.ofNat_add, UInt8.ofNat_mul]
    rfl

/-- The digits of a line stand between its white space and the first character that is neither. -/
lemma leadingDigits_append {blanks digits comment : List Char}
    (hblanks : ∀ c ∈ blanks, isBlank c = true) (hdigits : ∀ c ∈ digits, isBinaryDigit c = true)
    (hends : ∀ c ∈ comment.head?, isBinaryDigit c = false)
    (hbegins : ∀ c ∈ (digits ++ comment).head?, isBlank c = false) :
    leadingDigits (blanks ++ (digits ++ comment)) = digits := by
  have hstops : (digits ++ comment).dropWhile isBlank = digits ++ comment := by
    generalize digits ++ comment = cs at hbegins ⊢
    cases cs with
    | nil => rfl
    | cons c cs => rw [List.dropWhile_cons, hbegins c rfl, if_neg Bool.false_ne_true]
  have hnone : comment.takeWhile isBinaryDigit = [] := by
    cases comment with
    | nil => rfl
    | cons c cs => rw [List.takeWhile_cons, hends c rfl, if_neg Bool.false_ne_true]
  rw [leadingDigits, List.dropWhile_append_of_pos hblanks, hstops,
    List.takeWhile_append_of_pos hdigits, hnone, List.append_nil]

/-- A carriage return at the end of a line changes nothing. -/
lemma parseLine_concat_return (line : List Char) : parseLine (line ++ ['\r']) = parseLine line := by
  have hdigits : leadingDigits (line ++ ['\r']) = leadingDigits line := by
    rw [leadingDigits, leadingDigits, List.dropWhile_append]
    split
    · rename_i hblank
      rw [List.isEmpty_iff.1 hblank]
      decide
    · rw [List.takeWhile_append]
      split
      · rename_i hall
        have hreturn : ['\r'].takeWhile isBinaryDigit = [] := by decide
        rw [hreturn, List.append_nil]
        exact ((List.takeWhile_prefix _).eq_of_length hall).symm
      · rfl
  rw [parseLine, parseLine, hdigits]

lemma parseLine_withoutReturn (line : List Char) :
    parseLine (withoutReturn line) = parseLine line := by
  rcases withoutReturn_eq line with hkept | hdropped
  · rw [hkept]
  · conv_rhs => rw [hdropped]
    rw [parseLine_concat_return]

namespace ProgramLine

variable {line : List Char} {v : Option UInt8}

/-- What a line carries is read from it. -/
lemma parseLine_eq (h : ProgramLine line v) : parseLine line = v := by
  cases h with
  | @byte blanks digits comment v hblanks hdigits height hcomment hends =>
    have hbinary : ∀ c ∈ digits, isBinaryDigit c = true :=
      fun c hc => isBinaryDigit_iff_digitValue.2 (hdigits.digit c hc)
    obtain ⟨first, others, rfl⟩ : ∃ first others, digits = first :: others :=
      List.exists_cons_of_length_eq_add_one height
    have hleading : leadingDigits (blanks ++ (first :: others ++ comment)) = first :: others := by
      refine leadingDigits_append (fun c hc => (hblanks c hc).1) hbinary
        (fun c hc => isBinaryDigit_eq_false (hends c hc)) fun c hc => ?_
      obtain rfl : first = c := Option.some_inj.1 hc
      exact isBlank_of_isBinaryDigit (hbinary first List.mem_cons_self)
    rw [parseLine, List.append_assoc, hleading]
    show some ((first :: others).foldl shiftIn 0) = some v
    rw [foldl_shiftIn hbinary, hdigits.value, UInt8.ofNat_toNat]
  | @other blanks comment hblanks hcomment hbegins =>
    have hleading : leadingDigits (blanks ++ ([] ++ comment)) = [] :=
      leadingDigits_append (fun c hc => (hblanks c hc).1) (fun c hc => nomatch hc)
        (fun c hc => isBinaryDigit_eq_false (hbegins c hc).2) fun c hc => (hbegins c hc).1
    rw [List.nil_append] at hleading
    rw [parseLine, hleading]

lemma newline_notMem (h : ProgramLine line v) : '\n' ∉ line := by
  cases h with
  | @byte blanks digits comment v hblanks hdigits height hcomment hends =>
    intro hmem
    rw [List.mem_append, List.mem_append] at hmem
    rcases hmem with (hmem | hmem) | hmem
    · exact (hblanks _ hmem).2 rfl
    · exact absurd (hdigits.digit _ hmem) (by decide)
    · exact hcomment hmem
  | @other blanks comment hblanks hcomment hbegins =>
    intro hmem
    rcases List.mem_append.1 hmem with hmem | hmem
    · exact (hblanks _ hmem).2 rfl
    · exact hcomment hmem

end ProgramLine

/-! ## Reading a text -/

/-- The lines of a text, each with what it carries. -/
lemma ProgramText.parsed {text : List Char} {bytes : List UInt8} {n : Nat}
    (h : ProgramText text bytes n) :
    ((lines text).map parseLine).filterMap id = bytes ∧ (lines text).length = n := by
  induction h with
  | empty => exact ⟨rfl, rfl⟩
  | @unended line v hline hne =>
    rw [lines_unended hline.newline_notMem hne, List.map_singleton, hline.parseLine_eq]
    cases v <;> exact ⟨rfl, rfl⟩
  | @ended line ending rest v bytes n hline hending hrest ih =>
    obtain ⟨content, hnewline, hcut, hcontent⟩ : ∃ content, '\n' ∉ content
        ∧ line ++ ending ++ rest = content ++ '\n' :: rest ∧ parseLine content = v := by
      rcases hending with rfl | rfl
      · exact ⟨line, hline.newline_notMem, by simp, hline.parseLine_eq⟩
      · refine ⟨line ++ ['\r'], ?_, by simp, ?_⟩
        · rw [List.mem_append, not_or]
          exact ⟨hline.newline_notMem, by decide⟩
        · rw [parseLine_concat_return, hline.parseLine_eq]
    rw [hcut, lines_ended hnewline, List.map_cons, parseLine_withoutReturn, hcontent]
    refine ⟨?_, ?_⟩
    · rw [List.filterMap_cons, ih.1]
      cases v <;> rfl
    · rw [List.length_cons, ih.2]

/-- Every line carries a byte or is skipped. -/
lemma Program.length_bytes_add_skipped (text : String) :
    (Program.parse text).bytes.length + (Program.parse text).skipped =
      (lines text.toList).length := by
  rw [Program.parse]
  induction lines text.toList with
  | nil => rfl
  | cons line rest ih =>
    cases hline : parseLine line <;> simp [hline] at ih ⊢ <;> omega

/-- **Program text is read as it is meant.**  A text that carries some bytes, however they are set
apart and commented, is read as these bytes; the report counts them and the other lines; and a
simulator for any valid configuration with room for them starts with the bytes in memory and zeros
behind them. -/
theorem parse_programText {text : String} {bytes : List UInt8} {n : Nat}
    (h : ProgramText text.toList bytes n) :
    (Program.parse text).bytes = bytes
      ∧ (∃ skipped, (Program.parse text).event = .programParsed bytes.length skipped
          ∧ bytes.length + skipped = n)
      ∧ ∀ (c : Config) (output : Output), c.Valid → bytes.length ≤ c.ramSize →
          ∃ s, Simulator.load (Program.parse text).bytes c output = .ok s
            ∧ s.machine.ram.toList = bytes ++ List.replicate (c.ramSize - bytes.length) 0 := by
  obtain ⟨hbytes, hlines⟩ := h.parsed
  have hparsed : (Program.parse text).bytes = bytes := hbytes
  have hcount := Program.length_bytes_add_skipped text
  rw [hparsed, hlines] at hcount
  refine ⟨hparsed, ⟨(Program.parse text).skipped, ?_, hcount⟩, ?_⟩
  · rw [Program.event, hparsed]
  · intro c output hvalid hfits
    rw [hparsed]
    exact ⟨_, Simulator.load_eq_ok_iff.2 ⟨hvalid, hfits, rfl⟩, rfl⟩

/-- Three bytes, the first after an ideographic space, and two lines that carry none. -/
def decoratedText : String :=
  "\u3000 00000001\r\n# note\n\n\t10000000// half\r\n11111111"

/-- The comment begins right after the digits and the last line has no end. -/
theorem parse_programText_decorated :
    ProgramText decoratedText.toList [1, 128, 255] 5
      ∧ (Program.parse decoratedText).bytes = [1, 128, 255]
      ∧ (Program.parse decoratedText).event = .programParsed 3 2
      ∧ ∃ s, Simulator.load (Program.parse decoratedText).bytes {} .unlimited = .ok s
          ∧ s.machine.ram.toList = [1, 128, 255] ++ List.replicate 253 0 := by
  have hfirst : ProgramLine "\u3000 00000001".toList (some 1) :=
    @ProgramLine.byte ['\u3000', ' '] (paddedDigits 2 8 1) [] 1
      (List.forall_mem_cons.2 ⟨by decide, List.forall_mem_singleton.2 (by decide)⟩)
      (numeral_paddedDigits (by decide) (by decide) 8 1) (by decide) (by decide)
      (fun c hc => nomatch hc)
  have hnote : ProgramLine "# note".toList none :=
    @ProgramLine.other [] "# note".toList (List.forall_mem_nil _) (by decide)
      (fun c hc => Option.some_inj.1 hc ▸ by decide)
  have hblank : ProgramLine [] none :=
    @ProgramLine.other [] [] (List.forall_mem_nil _) (by decide) (fun c hc => nomatch hc)
  have hsecond : ProgramLine "\t10000000// half".toList (some 128) :=
    @ProgramLine.byte ['\t'] (paddedDigits 2 8 128) "// half".toList 128
      (List.forall_mem_singleton.2 (by decide))
      (numeral_paddedDigits (by decide) (by decide) 8 128) (by decide) (by decide)
      (fun c hc => Option.some_inj.1 hc ▸ by decide)
  have hthird : ProgramLine "11111111".toList (some 255) :=
    @ProgramLine.byte [] (paddedDigits 2 8 255) [] 255 (List.forall_mem_nil _)
      (numeral_paddedDigits (by decide) (by decide) 8 255) (by decide) (by decide)
      (fun c hc => nomatch hc)
  have hcut : decoratedText.toList =
      "\u3000 00000001".toList ++ ['\r', '\n'] ++ ("# note".toList ++ ['\n'] ++ ([] ++ ['\n']
        ++ ("\t10000000// half".toList ++ ['\r', '\n'] ++ "11111111".toList))) := by
    decide +kernel
  have htext : ProgramText decoratedText.toList [1, 128, 255] 5 := by
    rw [hcut]
    exact .ended hfirst (Or.inr rfl) <| .ended hnote (Or.inl rfl) <| .ended hblank (Or.inl rfl) <|
      .ended hsecond (Or.inr rfl) <| .unended hthird (by decide)
  obtain ⟨hbytes, ⟨skipped, hevent, hlines⟩, hload⟩ := parse_programText htext
  obtain rfl : skipped = 2 := Nat.add_left_cancel hlines
  exact ⟨htext, hbytes, hevent,
    hload {} .unlimited ((Config.validate_eq_ok_iff _).1 rfl) (by decide)⟩

end LS8
