import LS8.Proofs.Listing
import LS8.Proofs.Lockstep

/-!
# An instruction is its encoding

Three bytes are fetched for every instruction and a decoded instruction carries two of them along,
whether it has as many operands or not.  The encoding keeps the ones that it has.  Instructions with
the same encoding do the same (`execute_congr`), are written the same and have the same length, so
nothing that follows from an instruction depends on the bytes behind it.

For a whole tick this is a statement about two ticks: one that decodes what it has fetched, and one
that gets other bytes in place of those behind the instruction (`refill`).  They agree in everything
but the event that records the instruction, and even these two events have the same wording.
-/

namespace LS8

/-- Everything that a log can show of an event. -/
def Event.wording (e : Event) : Level × String × String :=
  (e.level, e.origin, e.message)

namespace Instruction

variable {i j : Instruction}

/-! ## Same encoding -/

lemma opcode_eq_of_encode_eq (h : j.encode = i.encode) : j.opcode = i.opcode := by
  obtain ⟨op, a, b⟩ := i
  obtain ⟨op', a', b'⟩ := j
  exact (eq_of_encode_eq h).1

lemma length_eq_of_encode_eq (h : j.encode = i.encode) : j.length = i.length := by
  rw [length, length, opcode_eq_of_encode_eq h]

lemma text_eq_of_encode_eq (h : j.encode = i.encode) : j.text = i.text := by
  rw [← disassemble_encode, ← disassemble_encode, h]

/-- The two high bits of an opcode count the operand bytes that are encoded. -/
lemma encode_eq_take (i : Instruction) :
    i.encode = i.opcode.byte :: [i.a, i.b].take (i.opcode.byte.toNat >>> 6) := by
  rw [encode, length, Opcode.length_eq, List.take_succ_cons]

end Instruction

namespace Machine

variable {i j : Instruction}

/-- Instructions with the same encoding do the same. -/
lemma execute_congr (h : j.encode = i.encode) : execute j = execute i := by
  obtain ⟨op, a, b⟩ := i
  obtain ⟨op', a', b'⟩ := j
  obtain ⟨rfl, ha, hb⟩ := Instruction.eq_of_encode_eq h
  cases op' with
  | hlt | iret => rfl
  | prn | call | int | jeq | jne | jmp | inc | dec =>
    obtain rfl : a' = a := ha (by decide)
    rfl
  | ldi | cmp | add | mul | div | and =>
    obtain rfl : a' = a := ha (by decide)
    obtain rfl : b' = b := hb (by decide)
    rfl

/-- All that a tick does with an instruction once it has been decoded. -/
def carryOut (i : Instruction) : Action Unit := do
  let flow ← execute i
  count fun s => s.retire i.opcode.instructionClass
  follow i flow

lemma carryOut_congr (h : j.encode = i.encode) : carryOut j = carryOut i := by
  have hfollow : follow j = follow i := by
    funext flow
    cases flow with
    | next => rw [follow, follow, Instruction.length_eq_of_encode_eq h]
    | jump target => rfl
    | halt => rfl
  rw [carryOut, carryOut, execute_congr h, Instruction.opcode_eq_of_encode_eq h, hfollow]

/-! ## Other bytes behind an instruction -/

/-- Three fetched bytes, with `x` and `y` in place of those that do not belong to the
instruction. -/
def refill (x y : UInt8) : UInt8 × UInt8 × UInt8 → UInt8 × UInt8 × UInt8
  | (ir, a, b) => (ir, if 0 < followers ir then a else x, if 1 < followers ir then b else y)

/-- The instruction at the program counter if `through` becomes of the bytes that are fetched. -/
def decodeThrough (through : UInt8 × UInt8 × UInt8 → UInt8 × UInt8 × UInt8) :
    Action Instruction := do
  let (ir, a, b) := through (← fetch)
  identify ir a b

/-- A tick of the clock if `through` becomes of the bytes that are fetched. -/
def tickThrough (through : UInt8 × UInt8 × UInt8 → UInt8 × UInt8 × UInt8) : Action Unit := do
  if !(← get).isHalted then
    start
    count fun s => { s with ticks := s.ticks + 1 }
    haltOnFault do
      serviceInterrupts
      carryOut (← decodeThrough through)

/-- A tick leaves the bytes as they were fetched. -/
lemma tickThrough_id : tickThrough id = tick := rfl

/-- Other bytes behind an instruction do not change its encoding, and an unknown byte stays one. -/
lemma encode_decode?_refill (x y ir a b : UInt8) :
    (Instruction.decode? ir (if 0 < followers ir then a else x)
        (if 1 < followers ir then b else y)).map Instruction.encode =
      (Instruction.decode? ir a b).map Instruction.encode := by
  simp only [Instruction.decode?]
  cases hop : Opcode.ofByte? ir with
  | none => rfl
  | some op =>
    rw [← Opcode.byte_eq_of_ofByte? hop, followers_byte]
    simp only [Option.map_some, Instruction.encode_eq]
    cases op <;> rfl

/-! ## Journals with the same wording -/

/-- The machines are the same except for their journals, which have the same wording. -/
def WordsAlike (m m' : Machine) : Prop :=
  ∃ journal, m = { m' with journal := journal }
    ∧ journal.map Event.wording = m'.journal.map Event.wording

namespace WordsAlike

lemma refl (m : Machine) : WordsAlike m m :=
  ⟨m.journal, rfl, rfl⟩

/-- Events with the same wording keep the journals alike. -/
lemma push {m m' : Machine} {e e' : Event} (h : WordsAlike m m') (he : e.wording = e'.wording) :
    WordsAlike { m with journal := m.journal.push e } { m' with journal := m'.journal.push e' } := by
  obtain ⟨journal, rfl, hsame⟩ := h
  exact ⟨journal.push e, rfl, by rw [Array.map_push, Array.map_push, hsame, he]⟩

lemma count (f : Statistics → Statistics) :
    Lockstep WordsAlike (fun _ => False) (Machine.count f) := by
  rintro _ m' ⟨journal, rfl, hsame⟩
  exact ⟨rfl, journal, rfl, hsame⟩

lemma withRam ⦃m m' : Machine⦄ (ram : Ram) (h : WordsAlike m m') :
    WordsAlike { m with ram := ram } { m' with ram := ram } := by
  obtain ⟨journal, rfl, hsame⟩ := h
  exact ⟨journal, rfl, hsame⟩

lemma print (v : UInt8) : Lockstep WordsAlike (fun _ => False) (Machine.print v) := by
  rintro _ m' ⟨journal, rfl, hsame⟩
  exact ⟨rfl, journal, rfl, hsame⟩

lemma emit (e : Event) : Lockstep WordsAlike (fun _ => False) (Machine.emit e) :=
  fun _ _ h => ⟨rfl, h.push rfl⟩

lemma pc ⦃m m' : Machine⦄ (h : WordsAlike m m') : m.pc = m'.pc := by
  obtain ⟨journal, rfl, -⟩ := h
  rfl

lemma ram ⦃m m' : Machine⦄ (h : WordsAlike m m') : m.ram = m'.ram := by
  obtain ⟨journal, rfl, -⟩ := h
  rfl

/-- Instructions with the same encoding are recorded alike. -/
lemma traced {m m' : Machine} (h : WordsAlike m m') (hencode : j.encode = i.encode) :
    WordsAlike (m.traced j) (m'.traced i) := by
  have hwording : ∀ pc, (Event.decoded pc j).wording = (Event.decoded pc i).wording := by
    intro pc
    simp only [Event.wording, Event.level, Event.origin, Event.message, Event.summary,
      Event.fields, Instruction.text_eq_of_encode_eq hencode]
  obtain ⟨journal, rfl, hsame⟩ := h
  unfold Machine.traced
  dsimp only
  split
  · exact push ⟨journal, rfl, hsame⟩ (hwording m'.pc)
  · exact ⟨journal, rfl, hsame⟩

lemma simulation : Simulation WordsAlike (fun _ => False) where
  registers := by
    rintro _ _ ⟨journal, rfl, -⟩
    rfl
  pc h := h.pc
  flags := by
    rintro _ _ ⟨journal, rfl, -⟩
    rfl
  phase := by
    rintro _ _ ⟨journal, rfl, -⟩
    rfl
  interruptsEnabled := by
    rintro _ _ ⟨journal, rfl, -⟩
    rfl
  withRegisters := by
    rintro _ _ _ ⟨journal, rfl, hsame⟩
    exact ⟨journal, rfl, hsame⟩
  withPc := by
    rintro _ _ _ ⟨journal, rfl, hsame⟩
    exact ⟨journal, rfl, hsame⟩
  withFlags := by
    rintro _ _ _ ⟨journal, rfl, hsame⟩
    exact ⟨journal, rfl, hsame⟩
  withPhase := by
    rintro _ _ _ ⟨journal, rfl, hsame⟩
    exact ⟨journal, rfl, hsame⟩
  withInterrupts := by
    rintro _ _ _ ⟨journal, rfl, hsame⟩
    exact ⟨journal, rfl, hsame⟩
  emit e _ := emit e
  recordDecoded i := by
    rintro _ m' ⟨journal, rfl, hsame⟩
    simp only [Machine.recordDecoded, get_bind_apply]
    split
    · exact emit _ ⟨journal, rfl, hsame⟩
    · exact ⟨rfl, journal, rfl, hsame⟩
  recordHalted := by
    rintro _ m' ⟨journal, rfl, hsame⟩
    exact emit (.halted m'.pc m'.statistics.ticks) ⟨journal, rfl, hsame⟩
  countTick := count _
  countRetired _ := count _
  countBranch := count _
  countInterrupt := count _
  readCell := .readCell ram
  writeCell := .writeCell ram withRam
  print v := .printOrFault pc (print v)

end WordsAlike

/-! ## Ticks with other bytes behind the instruction -/

lemma carryOut_lockstep (i : Instruction) :
    Lockstep WordsAlike (fun _ => False) (carryOut i) :=
  (WordsAlike.simulation.execute i).bind fun flow => (WordsAlike.count _).bind fun _ =>
    WordsAlike.simulation.follow i flow

/-- Whatever bytes are behind the instruction, it is decoded and carried out alike. -/
lemma mirrors_identify {m m' : Machine} (h : WordsAlike m m') (x y ir a b : UInt8) :
    Mirrors WordsAlike (fun _ => False)
      ((identify ir (if 0 < followers ir then a else x) (if 1 < followers ir then b else y)
        >>= carryOut) m)
      ((identify ir a b >>= carryOut) m') := by
  have hencode := encode_decode?_refill x y ir a b
  rw [bind_apply, bind_apply, identify_apply, identify_apply]
  cases hi : Instruction.decode? ir a b with
  | none =>
    rw [hi, Option.map_none, Option.map_eq_none_iff] at hencode
    rw [hencode]
    exact Or.inr ⟨by rw [h.pc], h⟩
  | some i =>
    rw [hi, Option.map_some, Option.map_eq_some_iff] at hencode
    obtain ⟨j, hj, hsame⟩ := hencode
    rw [hj]
    dsimp only
    rw [carryOut_congr hsame]
    exact carryOut_lockstep i (h.traced hsame)

/-- A tick with other bytes behind the instruction is the tick without them. -/
lemma mirrors_tickThrough (m : Machine) (x y : UInt8) :
    Mirrors WordsAlike (fun _ => False) (tickThrough (refill x y) m) (tick m) := by
  have sim := WordsAlike.simulation
  rw [tickThrough, tick, get_bind_apply, get_bind_apply]
  split
  · refine (sim.start (.refl m)).bind fun _ _ _ h₁ => (sim.countTick h₁).bind fun _ _ _ h₂ => ?_
    refine Mirrors.haltOnFault ?_ fun _ _ fault h => sim.stop fault h
    refine (sim.serviceInterrupts h₂).bind fun _ n n' h₃ => ?_
    show Mirrors _ _ ((decodeThrough (refill x y) >>= carryOut) n) ((decode >>= carryOut) n')
    have hdecode : decode = fetch >>= fun bytes => identify bytes.1 bytes.2.1 bytes.2.2 := rfl
    rw [decodeThrough, hdecode, bind_assoc, bind_assoc]
    exact (sim.fetch h₃).bind fun bytes _ _ h₄ => mirrors_identify h₄ x y ..
  · exact ⟨rfl, .refl m⟩

/-- **An instruction is its encoding.**  Instructions with the same encoding do the same on every
machine, answers and faults included.  The encoding has as many operand bytes as the two high bits
of the opcode say; with any bytes behind it, it decodes to an instruction with the same encoding,
length and text.  So a tick does the same whatever bytes it fetches behind the instruction, down to
the wording of the log. -/
theorem encoding_is_meaning :
    (∀ i j : Instruction, i.encode = j.encode →
        ∀ m : Machine, m.perform (execute i) = m.perform (execute j))
      ∧ (∀ i : Instruction,
          i.encode = i.opcode.byte :: [i.a, i.b].take (i.opcode.byte.toNat >>> 6))
      ∧ (∀ (i : Instruction) (padding : List UInt8) (ir a b : UInt8),
          i.encode ++ padding = [ir, a, b] →
          ∃ j, Instruction.decode? ir a b = some j ∧ j.encode = i.encode ∧ j.length = i.length
            ∧ j.text = i.text)
      ∧ ∀ (m : Machine) (x y : UInt8),
          (m.perform (tickThrough (refill x y))).1 = (m.perform tick).1
            ∧ WordsAlike (m.perform (tickThrough (refill x y))).2 (m.perform tick).2 := by
  refine ⟨?_, Instruction.encode_eq_take, ?_, ?_⟩
  · intro i j h m
    rw [execute_congr h]
  · intro i padding ir a b hpadded
    obtain ⟨j, hj, hencode⟩ := Instruction.encode_eq_of_decode? ⟨padding, hpadded⟩
    exact ⟨j, hj, hencode, Instruction.length_eq_of_encode_eq hencode,
      Instruction.text_eq_of_encode_eq hencode⟩
  · intro m x y
    exact (mirrors_tickThrough m x y).perform fun _ _ => not_false

/-- A tracing machine of three cells, at a jump behind which the opcode of a load stands. -/
def jumpBeforeLoad : Machine :=
  loaded [0x54, 1, 0x99] { ramSize := 3, stackTop := 2, tracing := true } .unlimited

/-- The jump is the same without the load: executed, decoded and in a whole tick. -/
theorem encoding_is_meaning_jumpBeforeLoad :
    Instruction.encode ⟨.jmp, 1, 0x99⟩ = Instruction.encode ⟨.jmp, 1, 0⟩
      ∧ jumpBeforeLoad.perform (execute ⟨.jmp, 1, 0x99⟩) =
          jumpBeforeLoad.perform (execute ⟨.jmp, 1, 0⟩)
      ∧ (∃ j, Instruction.decode? 0x54 1 0x99 = some j ∧ j.encode = [0x54, 1] ∧ j.length = 2
          ∧ j.text = "JMP R1")
      ∧ (jumpBeforeLoad.perform (tickThrough (refill 0 0))).1 = (jumpBeforeLoad.perform tick).1
      ∧ jumpBeforeLoad.perform (tickThrough (refill 0 0)) ≠ jumpBeforeLoad.perform tick := by
  obtain ⟨hexecute, -, hpadded, htick⟩ := encoding_is_meaning
  have hencode : Instruction.encode ⟨.jmp, 1, 0x99⟩ = Instruction.encode ⟨.jmp, 1, 0⟩ := by decide
  obtain ⟨j, hj, hbytes, hlength, htext⟩ :=
    hpadded ⟨.jmp, 1, 0⟩ [0x99] 0x54 1 0x99 (by decide)
  have hjump : Instruction.text ⟨.jmp, 1, 0⟩ = "JMP R1" := by decide
  exact ⟨hencode, hexecute _ _ hencode _, ⟨j, hj, hbytes, hlength, htext.trans hjump⟩,
    (htick _ 0 0).1, by decide +kernel⟩

end Machine

end LS8
