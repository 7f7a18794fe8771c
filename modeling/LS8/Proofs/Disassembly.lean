import LS8.Proofs.Listing

/-!
# What a listing says about its bytes

A program can be read back from its listing.  The listing cuts the bytes into segments that follow
one another without a gap (`flatten_segments`), and the text of a segment determines the segment
(`disassemble_injective`): it begins with a dot exactly for an unknown byte, whose bits it shows, and
otherwise with a mnemonic up to the first blank, behind which stands one text for each operand.  A
number is written in decimal and a missing byte as a question mark, so the commas between the texts
are the only ones and no two operands are written the same.

The first line of a listing that differs from another therefore differs in its segment, because the
offsets in front of it are still the same (`listingFrom_injective`).
-/

namespace LS8

open Text

namespace Text

/-! ## Numbers as text -/

variable {base m n : Nat}

lemma toDigits_injective (hlow : 1 < base) (hhigh : base ≤ 16)
    (h : Nat.toDigits base m = Nat.toDigits base n) : m = n := by
  rw [← (numeral_toDigits hlow hhigh m).value, h, (numeral_toDigits hlow hhigh n).value]

lemma paddedDigits_injective {width : Nat} (hlow : 1 < base) (hhigh : base ≤ 16)
    (h : paddedDigits base width m = paddedDigits base width n) : m = n := by
  rw [← (numeral_paddedDigits hlow hhigh width m).value, h,
    (numeral_paddedDigits hlow hhigh width n).value]

lemma binaryByte_injective : Function.Injective binaryByte := by
  intro b c h
  rw [binaryByte, binaryByte, String.append_right_inj, String.ofList_inj] at h
  exact UInt8.toNat.inj (paddedDigits_injective (by decide) (by decide) h)

lemma isDigit_of_mem_decimal {n : Nat} {c : Char} (h : c ∈ (decimal n).toList) :
    c.isDigit = true := by
  rw [decimal, String.toList_ofList] at h
  exact isDigit_of_mem_toDigits h

/-! ## Texts between commas -/

/-- A character other than the comma stands in one of the texts. -/
lemma mem_intercalate_comma {c : Char} (hc : c ≠ ',') (texts : List String) :
    c ∈ (String.intercalate "," texts).toList ↔ ∃ text ∈ texts, c ∈ text.toList := by
  rw [String.toList_intercalate]
  induction texts with
  | nil => exact ⟨nofun, nofun⟩
  | cons first rest ih =>
    cases rest with
    | nil => simp
    | cons second rest =>
      have hseparator : c ∉ ",".toList := by simpa using hc
      rw [List.map_cons, List.map_cons, List.intercalate_cons_cons, ← List.map_cons,
        List.mem_append, List.mem_append, ih, or_iff_left hseparator,
        List.exists_mem_cons_iff (l := second :: rest)]

/-- Texts without a comma can be told apart between commas. -/
lemma intercalate_comma_injective {texts texts' : List String}
    (hlength : texts.length = texts'.length) (hcomma : ∀ text ∈ texts, ',' ∉ text.toList)
    (hcomma' : ∀ text ∈ texts', ',' ∉ text.toList)
    (h : String.intercalate "," texts = String.intercalate "," texts') : texts = texts' := by
  have hsplit : ∀ ts : List String, ts ≠ [] → (∀ text ∈ ts, ',' ∉ text.toList) →
      List.splitOn ',' (String.intercalate "," ts).toList = ts.map String.toList := by
    intro ts hne hfree
    rw [String.toList_intercalate]
    exact List.splitOn_intercalate ',' (by simpa using hfree) (by simpa using hne)
  cases texts with
  | nil => exact (List.length_eq_zero_iff.1 hlength.symm).symm
  | cons text rest =>
    have hne' : texts' ≠ [] := by
      rintro rfl
      cases hlength
    have hchars := hsplit _ (List.cons_ne_nil _ _) hcomma
    rw [h, hsplit _ hne' hcomma'] at hchars
    exact (List.map_injective_iff.2 (fun _ _ => String.toList_inj.1) hchars).symm

end Text

/-! ## The text of an operand -/

namespace OperandKind

variable (kind : OperandKind) (b : UInt8)

lemma mem_text {c : Char} (h : c ∈ (kind.text b).toList) : c = 'R' ∨ c.isDigit = true := by
  cases kind with
  | register =>
    rw [text, String.toList_append, List.mem_append] at h
    exact h.imp List.mem_singleton.1 isDigit_of_mem_decimal
  | immediate => exact Or.inr (isDigit_of_mem_decimal h)

lemma question_notMem_text : '?' ∉ (kind.text b).toList := by
  intro h
  rcases kind.mem_text b h with heq | hdigit
  · cases heq
  · cases hdigit

lemma text_injective : Function.Injective kind.text := by
  intro b c h
  have hdecimal : decimal b.toNat = decimal c.toNat := by
    cases kind with
    | register => exact (String.append_right_inj "R").1 h
    | immediate => exact h
  rw [decimal, decimal, String.ofList_inj] at hdecimal
  exact UInt8.toNat.inj (toDigits_injective (by decide) (by decide) hdecimal)

end OperandKind

/-! ## The texts of the operands of an instruction -/

lemma length_operandTexts (kinds : List OperandKind) (bytes : List UInt8) :
    (operandTexts kinds bytes).length = kinds.length := by
  induction kinds generalizing bytes with
  | nil => rfl
  | cons kind kinds ih =>
    cases bytes with
    | nil => rw [operandTexts, List.length_cons, ih, List.length_cons]
    | cons b rest => rw [operandTexts, List.length_cons, ih, List.length_cons]

lemma mem_operandTexts {kinds : List OperandKind} {bytes : List UInt8} {text : String}
    (h : text ∈ operandTexts kinds bytes) : text = "?" ∨ ∃ kind b, text = OperandKind.text kind b := by
  induction kinds generalizing bytes with
  | nil => cases h
  | cons kind kinds ih =>
    cases bytes with
    | nil =>
      rw [operandTexts, List.mem_cons] at h
      exact h.elim Or.inl ih
    | cons b rest =>
      rw [operandTexts, List.mem_cons] at h
      exact h.elim (fun heq => Or.inr ⟨kind, b, heq⟩) ih

lemma comma_notMem_operandTexts {kinds : List OperandKind} {bytes : List UInt8} :
    ∀ text ∈ operandTexts kinds bytes, ',' ∉ text.toList := by
  intro text htext hmem
  rcases mem_operandTexts htext with rfl | ⟨kind, b, rfl⟩
  · simp at hmem
  · rcases kind.mem_text b hmem with heq | hdigit
    · cases heq
    · cases hdigit

/-- A question mark stands for a byte that is missing, and for nothing else. -/
lemma exists_question_iff (kinds : List OperandKind) (bytes : List UInt8) :
    (∃ text ∈ operandTexts kinds bytes, '?' ∈ text.toList) ↔ bytes.length < kinds.length := by
  induction kinds generalizing bytes with
  | nil => simp [operandTexts]
  | cons kind kinds ih =>
    cases bytes with
    | nil => simp [operandTexts]
    | cons b rest => simp [operandTexts, ih, kind.question_notMem_text]

/-- Operand bytes can be told apart by their texts, if there are no more than the opcode has. -/
lemma operandTexts_injective {kinds : List OperandKind} {bytes bytes' : List UInt8}
    (hle : bytes.length ≤ kinds.length) (hle' : bytes'.length ≤ kinds.length)
    (h : operandTexts kinds bytes = operandTexts kinds bytes') : bytes = bytes' := by
  induction kinds generalizing bytes bytes' with
  | nil => rw [List.eq_nil_of_length_eq_zero (Nat.le_zero.1 hle),
      List.eq_nil_of_length_eq_zero (Nat.le_zero.1 hle')]
  | cons kind kinds ih =>
    have hmissing : ∀ b, kind.text b ≠ "?" := by
      intro b heq
      have hmem := kind.question_notMem_text b
      rw [heq] at hmem
      exact hmem (List.mem_singleton.2 rfl)
    cases bytes with
    | nil =>
      cases bytes' with
      | nil => rfl
      | cons c rest' => exact absurd (List.cons.inj h).1.symm (hmissing c)
    | cons b rest =>
      cases bytes' with
      | nil => exact absurd (List.cons.inj h).1 (hmissing b)
      | cons c rest' =>
        obtain ⟨hfirst, hothers⟩ := List.cons.inj h
        rw [kind.text_injective hfirst,
          ih (Nat.le_of_succ_le_succ hle) (Nat.le_of_succ_le_succ hle') hothers]

/-! ## Mnemonics -/

namespace Opcode

variable (op : Opcode)

lemma ofMnemonic?_mnemonic : ofMnemonic? op.mnemonic = some op := by
  cases op <;> decide

lemma mnemonic_injective : Function.Injective mnemonic := by
  intro op op' h
  have hfound := ofMnemonic?_mnemonic op
  rw [h, ofMnemonic?_mnemonic] at hfound
  exact (Option.some_inj.1 hfound).symm

lemma all_isUpper_mnemonic : op.mnemonic.toList.all Char.isUpper = true := by
  cases op <;> decide

lemma notMem_mnemonic {c : Char} (h : c.isUpper = false) : c ∉ op.mnemonic.toList := by
  intro hmem
  rw [List.all_eq_true.1 op.all_isUpper_mnemonic c hmem] at h
  cases h

end Opcode

/-! ## The text of a segment -/

/-- What stands behind the mnemonic. -/
def operandField : List String → List Char
  | [] => []
  | text :: texts => ' ' :: (String.intercalate "," (text :: texts)).toList

lemma operandField_injective {texts texts' : List String}
    (hlength : texts.length = texts'.length) (hcomma : ∀ text ∈ texts, ',' ∉ text.toList)
    (hcomma' : ∀ text ∈ texts', ',' ∉ text.toList)
    (h : operandField texts = operandField texts') : texts = texts' := by
  cases texts with
  | nil => exact (List.length_eq_zero_iff.1 hlength.symm).symm
  | cons text rest =>
    cases texts' with
    | nil => cases hlength
    | cons text' rest' =>
      have hbetween := String.toList_inj.1 (List.cons.inj h).2
      exact intercalate_comma_injective hlength hcomma hcomma' hbetween

lemma toList_disassemble_byte (op : Opcode) (bytes : List UInt8) :
    (disassemble (op.byte :: bytes)).toList =
      op.mnemonic.toList ++ operandField (operandTexts op.operands bytes) := by
  simp only [disassemble, Opcode.ofByte?_byte]
  cases operandTexts op.operands bytes with
  | nil => simp [operandField]
  | cons text texts => simp [operandField]

lemma disassemble_of_none {b : UInt8} (h : Opcode.ofByte? b = none) (bytes : List UInt8) :
    disassemble (b :: bytes) = ".byte " ++ binaryByte b := by
  simp only [disassemble, h]

/-- Up to the first blank the text is the mnemonic. -/
lemma takeWhile_disassemble_byte (op : Opcode) (bytes : List UInt8) :
    (disassemble (op.byte :: bytes)).toList.takeWhile (· != ' ') = op.mnemonic.toList := by
  have hword : ∀ c ∈ op.mnemonic.toList, (c != ' ') = true := by
    intro c hc
    rw [bne_iff_ne]
    rintro rfl
    exact op.notMem_mnemonic (by decide) hc
  rw [toList_disassemble_byte, List.takeWhile_append_of_pos hword]
  cases operandTexts op.operands bytes <;> simp [operandField]

lemma takeWhile_disassemble_of_none {b : UInt8} (h : Opcode.ofByte? b = none)
    (bytes : List UInt8) :
    (disassemble (b :: bytes)).toList.takeWhile (· != ' ') = ".byte".toList := by
  rw [disassemble_of_none h]
  simp

/-- An unknown byte is not written like an opcode. -/
lemma disassemble_byte_ne_of_none {b : UInt8} (h : Opcode.ofByte? b = none) (op : Opcode)
    (bytes bytes' : List UInt8) : disassemble (op.byte :: bytes) ≠ disassemble (b :: bytes') := by
  intro htext
  have hword := takeWhile_disassemble_of_none h bytes'
  rw [← htext, takeWhile_disassemble_byte] at hword
  have hdot : '.' ∉ op.mnemonic.toList := op.notMem_mnemonic (by decide)
  rw [hword] at hdot
  exact hdot (by decide)

/-- No instruction is written with a bracket in its first word. -/
lemma bracket_notMem_takeWhile_disassemble (b : UInt8) (bytes : List UInt8) :
    '<' ∉ (disassemble (b :: bytes)).toList.takeWhile (· != ' ') := by
  cases hop : Opcode.ofByte? b with
  | none =>
    rw [takeWhile_disassemble_of_none hop]
    decide
  | some op =>
    rw [← Opcode.byte_eq_of_ofByte? hop, takeWhile_disassemble_byte]
    exact op.notMem_mnemonic (by decide)

/-- A question mark is written exactly if an operand is missing. -/
lemma question_mem_disassemble_byte (op : Opcode) (bytes : List UInt8) :
    '?' ∈ (disassemble (op.byte :: bytes)).toList ↔ bytes.length < op.operands.length := by
  have hmnemonic : '?' ∉ op.mnemonic.toList := op.notMem_mnemonic (by decide)
  rw [toList_disassemble_byte, List.mem_append, or_iff_right hmnemonic, ← exists_question_iff]
  cases operandTexts op.operands bytes with
  | nil => exact ⟨nofun, nofun⟩
  | cons text texts =>
    have hblank : '?' ≠ ' ' := by decide
    rw [operandField, List.mem_cons, or_iff_right hblank, mem_intercalate_comma (by decide)]

lemma question_notMem_disassemble_of_none {b : UInt8} (h : Opcode.ofByte? b = none)
    (bytes : List UInt8) : '?' ∉ (disassemble (b :: bytes)).toList := by
  rw [disassemble_of_none h, binaryByte, String.toList_append, String.toList_append]
  intro hmem
  rcases List.mem_append.1 hmem with hword | hmem
  · revert hword
    decide
  rcases List.mem_append.1 hmem with hbase | hdigit
  · revert hbase
    decide
  · rw [String.toList_ofList] at hdigit
    have hbinary := (numeral_paddedDigits (by decide) (by decide) 8 b.toNat).digit '?' hdigit
    revert hbinary
    decide

/-! ## Segments -/

/-- The bytes of one line: a byte and no more of those behind it than belong to it. -/
def IsSegment : List UInt8 → Prop
  | [] => False
  | b :: rest => rest.length ≤ followers b

lemma isSegment_of_mem_segments {program segment : List UInt8} (h : segment ∈ segments program) :
    IsSegment segment := by
  induction program using segments.induct with
  | case1 =>
    rw [segments] at h
    cases h
  | case2 b rest ih =>
    rw [segments, List.mem_cons] at h
    rcases h with rfl | h
    · exact List.length_take_le ..
    · exact ih h

/-- No byte is left out and none stands in two segments. -/
lemma flatten_segments (program : List UInt8) : (segments program).flatten = program := by
  induction program using segments.induct with
  | case1 => rw [segments, List.flatten_nil]
  | case2 b rest ih =>
    rw [segments, List.flatten_cons, ih, List.cons_append, List.take_append_drop]

/-- A segment of an opcode can be told by its text from every other such segment. -/
lemma disassemble_byte_injective {op op' : Opcode} {bytes bytes' : List UInt8}
    (h : IsSegment (op.byte :: bytes)) (h' : IsSegment (op'.byte :: bytes'))
    (htext : disassemble (op.byte :: bytes) = disassemble (op'.byte :: bytes')) :
    op.byte :: bytes = op'.byte :: bytes' := by
  have hmnemonic : op.mnemonic.toList = op'.mnemonic.toList := by
    rw [← takeWhile_disassemble_byte op bytes, htext, takeWhile_disassemble_byte]
  obtain rfl : op = op' := Opcode.mnemonic_injective (String.toList_inj.1 hmnemonic)
  rw [IsSegment, followers_byte] at h h'
  have hfields : operandField (operandTexts op.operands bytes) =
      operandField (operandTexts op.operands bytes') := by
    have hchars := congrArg String.toList htext
    rw [toList_disassemble_byte, toList_disassemble_byte] at hchars
    exact List.append_cancel_left hchars
  have htexts := operandField_injective
    ((length_operandTexts op.operands bytes).trans (length_operandTexts op.operands bytes').symm)
    comma_notMem_operandTexts comma_notMem_operandTexts hfields
  rw [operandTexts_injective h h' htexts]

lemma disassemble_injective {segment segment' : List UInt8} (h : IsSegment segment)
    (h' : IsSegment segment') (htext : disassemble segment = disassemble segment') :
    segment = segment' := by
  obtain _ | ⟨b, rest⟩ := segment
  · cases h
  obtain _ | ⟨b', rest'⟩ := segment'
  · cases h'
  cases hop : Opcode.ofByte? b with
  | none =>
    cases hop' : Opcode.ofByte? b' with
    | none =>
      rw [disassemble_of_none hop, disassemble_of_none hop', String.append_right_inj] at htext
      simp only [IsSegment, followers, hop, hop', Nat.le_zero_eq, List.length_eq_zero_iff] at h h'
      rw [binaryByte_injective htext, h, h']
    | some op' =>
      rw [← Opcode.byte_eq_of_ofByte? hop'] at htext
      exact (disassemble_byte_ne_of_none hop op' rest' rest htext.symm).elim
  | some op =>
    cases hop' : Opcode.ofByte? b' with
    | none =>
      rw [← Opcode.byte_eq_of_ofByte? hop] at htext
      exact (disassemble_byte_ne_of_none hop' op rest rest' htext).elim
    | some op' =>
      obtain rfl := Opcode.byte_eq_of_ofByte? hop
      obtain rfl := Opcode.byte_eq_of_ofByte? hop'
      exact disassemble_byte_injective h h' htext

/-! ## The lines of a program -/

lemma listingFrom_injective {offset : Nat} {cut cut' : List (List UInt8)}
    (hcut : ∀ segment ∈ cut, IsSegment segment) (hcut' : ∀ segment ∈ cut', IsSegment segment)
    (h : listingFrom offset cut = listingFrom offset cut') : cut = cut' := by
  induction cut generalizing offset cut' with
  | nil =>
    cases cut' with
    | nil => rfl
    | cons segment' rest' => cases h
  | cons segment rest ih =>
    cases cut' with
    | nil => cases h
    | cons segment' rest' =>
      obtain ⟨hsegment, hrest⟩ := List.forall_mem_cons.1 hcut
      obtain ⟨hsegment', hrest'⟩ := List.forall_mem_cons.1 hcut'
      obtain ⟨hline, hlines⟩ := List.cons.inj h
      obtain rfl : segment = segment' :=
        disassemble_injective hsegment hsegment' ((String.append_right_inj _).1 hline)
      rw [ih hrest hrest' hlines]

/-- **A listing loses nothing.**  It has a line for each segment of the program, unknown bytes and a
last instruction without all of its operands included; no segment is empty, and in order they are
the program.  A line names the offset of its segment and shows the segment.  No other program has
the same listing. -/
theorem listing_loses_nothing :
    (∀ program : List UInt8,
      (segments program).flatten = program
        ∧ (∀ segment ∈ segments program, segment ≠ [])
        ∧ (listing program).length = (segments program).length
        ∧ ∀ k : Fin (segments program).length, ∃ digits,
            Numeral 16 digits ((segments program).take k).flatten.length
              ∧ 2 ≤ digits.length
              ∧ (digits.length = 2 ∨ digits.head? ≠ some '0')
              ∧ (listing program)[k.val]? =
                  some ("0x" ++ String.ofList digits ++ ": " ++ disassemble (segments program)[k]))
      ∧ Function.Injective listing := by
  refine ⟨fun program => ⟨flatten_segments program, ?_, length_listingFrom .., fun k => ?_⟩, ?_⟩
  · rintro segment hmem rfl
    exact isSegment_of_mem_segments hmem
  · obtain ⟨digits, hnumeral, htwo, hshort, haddress⟩ :=
      exists_hexAddress ((segments program).take k).flatten.length
    refine ⟨digits, hnumeral, htwo, hshort, ?_⟩
    rw [listing, getElem?_listingFrom, Nat.zero_add, haddress, List.getElem?_eq_getElem k.isLt]
    rfl
  · intro program program' h
    have hcut : segments program = segments program' :=
      listingFrom_injective (fun _ => isSegment_of_mem_segments)
        (fun _ => isSegment_of_mem_segments) h
    rw [← flatten_segments program, hcut, flatten_segments]

/-- The segments of an unknown byte and of a load without its last operand. -/
lemma segments_brokenOff : segments [0xFF, 0x99, 2] = [[0xFF], [0x99, 2]] := by
  have hunknown : followers 0xFF = 0 := by decide
  have hload : followers 0x99 = 2 := by decide
  rw [segments, hunknown, List.take_zero, List.drop_zero, segments, hload, List.take_succ_cons,
    List.take_nil, List.drop_succ_cons, List.drop_nil, segments]

/-- The load that breaks off has a line with a question mark, and with a last operand it has a
different one. -/
theorem listing_loses_nothing_brokenOff :
    [0x99, 2] ∈ segments [0xFF, 0x99, 2] ∧ ([0x99, 2] : List UInt8) ≠ []
      ∧ listing [0xFF, 0x99, 2] = ["0x00: .byte 0b11111111", "0x01: LDI R2,?"]
      ∧ listing [0xFF, 0x99, 2] ≠ listing [0xFF, 0x99, 2, 0] := by
  obtain ⟨hlisting, hinjective⟩ := listing_loses_nothing
  obtain ⟨-, hnonempty, -⟩ := hlisting [0xFF, 0x99, 2]
  have hmem : [0x99, 2] ∈ segments [0xFF, 0x99, 2] := by
    rw [segments_brokenOff]
    exact List.mem_cons_of_mem _ (List.mem_singleton_self _)
  refine ⟨hmem, hnonempty _ hmem, ?_, hinjective.ne (by decide)⟩
  rw [listing, segments_brokenOff]
  decide

end LS8
