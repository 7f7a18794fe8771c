import LS8.Proofs.Reached

/-!
# The instruction table

The sixteen instructions once more, over plain natural numbers and without bytes, actions or
faults: `Opcode.table` says for each of them what becomes of a `Snapshot`, which is all that a
program can see of a machine.  A tick that dispatches nothing and does not fault has exactly the
effect that the table gives (`tick_follows_table`), so whatever the table does not mention stays
as it was.

The table computes modulo 256 where the machine computes with bytes, and pushes an address as the
number that it is.  That is no different for a reached machine, where an instruction that can be
fetched ends before address 256.
-/

namespace LS8

/-! ## Snapshots -/

/-- A machine in numbers. -/
@[ext]
structure Snapshot where
  /-- The registers, by their numbers; there is only zero beyond the last. -/
  register : Nat → Nat
  /-- The program counter. -/
  pc : Nat
  /-- The condition flags, as the bits `00000LGE`. -/
  flags : Nat
  /-- The cells of memory that exist. -/
  memory : Nat → Option Nat
  /-- The phase of life. -/
  phase : Phase
  /-- Pending interrupts are dispatched. -/
  interruptsEnabled : Bool
  /-- Everything printed so far. -/
  printed : String

namespace Snapshot

variable (s : Snapshot)

/-- The snapshot with a number in a register. -/
def set (r v : Nat) : Snapshot :=
  { s with register := fun r' => if r' = r then v else s.register r' }

/-- The snapshot with a number in a cell of memory. -/
def store (address v : Nat) : Snapshot :=
  { s with memory := fun cell => if cell = address then some v else s.memory cell }

/-- The snapshot with the program counter at an address. -/
def goto (address : Nat) : Snapshot :=
  { s with pc := address }

/-- The number in a cell of memory. -/
def byte (address : Nat) : Nat :=
  (s.memory address).getD 0

/-- The snapshot after following a flow from an instruction of the given length. -/
def follow (length : Nat) : Flow → Snapshot
  | .next => s.goto (s.pc + length)
  | .jump target => s.goto target
  | .halt => { s with phase := .halted }

end Snapshot

/-- The snapshot of a machine. -/
def Machine.snapshot (m : Machine) : Snapshot where
  register r := ((m.registers.get? r).getD 0).toNat
  pc := m.pc
  flags := m.flags.bits.toNat
  memory address := (m.ram.cell? address).map UInt8.toNat
  phase := m.phase
  interruptsEnabled := m.interruptsEnabled
  printed := m.output.text

/-! ## The table -/

/-- The flag for the order of two numbers: `E`, `G` or `L`. -/
def orderBit (x y : Nat) : Nat :=
  if x = y then 1 else if y < x then 2 else 4

namespace Opcode

/-- The next instruction in memory; the two high bits of an opcode count its operands. -/
def advance (op : Opcode) (s : Snapshot) : Snapshot :=
  s.goto (s.pc + (op.byte.toNat >>> 6) + 1)

/-- The effect of an instruction whose operand bytes are `a` and `b`. -/
def table (op : Opcode) (a b : Nat) (s : Snapshot) : Snapshot :=
  let x := s.register a
  let y := s.register b
  let sp := s.register 7
  match op with
  | ldi => op.advance (s.set a b)
  | add => op.advance (s.set a ((x + y) % 256))
  | mul => op.advance (s.set a (x * y % 256))
  | div => op.advance (s.set a (x / y))
  | and => op.advance (s.set a (x &&& y))
  | inc => op.advance (s.set a ((x + 1) % 256))
  | dec => op.advance (s.set a ((x + 255) % 256))
  | cmp => op.advance { s with flags := orderBit x y }
  | prn => op.advance { s with printed := s.printed ++ toString x ++ "\n" }
  | int => op.advance (s.set 6 (s.register 6 ||| 1 <<< x))
  | jmp => s.goto x
  | jeq => if s.flags % 2 = 1 then s.goto x else op.advance s
  | jne => if s.flags % 2 = 0 then s.goto x else op.advance s
  | call => ((s.store ((sp + 255) % 256) (s.pc + 2)).set 7 ((sp + 255) % 256)).goto x
  | iret =>
    -- `R6` is on top of the stack, `R0` six cells above it
    { s with
      register := fun r =>
        if r < 7 then s.byte ((sp + (6 - r)) % 256)
        else if r = 7 then (sp + 9) % 256
        else s.register r
      flags := s.byte ((sp + 7) % 256) % 8
      interruptsEnabled := true
      pc := s.byte ((sp + 8) % 256) }
  | hlt => { s with phase := .halted }

/-- The instruction sends the program counter elsewhere. -/
def jumps (op : Opcode) (s : Snapshot) : Bool :=
  match op with
  | jmp | call | iret => true
  | jeq => decide (s.flags % 2 = 1)
  | jne => decide (s.flags % 2 = 0)
  | _ => false

end Opcode

/-! ## Registers, flags and output in numbers -/

lemma Registers.get?_write (rs : Registers) (r : Register) (v : UInt8) (n : Nat) :
    (rs.write r v).get? n = if n = r.val then some v else rs.get? n := by
  have hr : r.val < registerCount := r.isLt
  simp only [get?, write, Vector.getElem?_set]
  by_cases h : n = r.val
  · simp [h]
  · simp [h, Ne.symm h]

lemma Registers.get?_of_lt (rs : Registers) {n : Nat} (h : n < registerCount) :
    rs.get? n = some (rs.read ⟨n, h⟩) := by
  simp [get?, read, h]

lemma Registers.get?_of_le (rs : Registers) {n : Nat} (h : registerCount ≤ n) :
    rs.get? n = none := by
  simp [get?, h]

lemma Opcode.length_eq (op : Opcode) : op.length = (op.byte.toNat >>> 6) + 1 := by
  cases op <;> rfl

lemma Opcode.advance_eq (op : Opcode) (s : Snapshot) : op.advance s = s.follow op.length .next := by
  rw [advance, Snapshot.follow, length_eq, Nat.add_assoc]

lemma toNat_sub_one (sp : UInt8) : (sp - 1).toNat = (sp.toNat + 255) % 256 := by
  simp only [UInt8.toNat_sub, UInt8.toNat_one]
  omega

lemma toNat_add_ofNat (sp : UInt8) (i : Nat) :
    (sp + UInt8.ofNat i).toNat = (sp.toNat + i) % 256 := by
  simp only [UInt8.toNat_add, UInt8.toNat_ofNat']
  omega

lemma Flags.bits_compare (x y : UInt8) :
    (Flags.compare x y).bits.toNat = orderBit x.toNat y.toNat := by
  have heq : (x == y) = decide (x.toNat = y.toNat) := by
    rw [Bool.eq_iff_iff, beq_iff_eq, decide_eq_true_iff, UInt8.toNat_inj]
  have hgt : decide (x > y) = decide (y.toNat < x.toNat) := rfl
  have hlt : decide (x < y) = decide (x.toNat < y.toNat) := rfl
  rw [compare, heq, hgt, hlt, orderBit]
  rcases lt_trichotomy x.toNat y.toNat with h | h | h
  · simp [bits, h, h.ne, Nat.not_lt.2 h.le]
  · simp [bits, h]
  · simp [bits, h, h.ne', Nat.not_lt.2 h.le]

lemma Flags.bits_mod_two (f : Flags) : f.bits.toNat % 2 = f.equal.toNat := by
  obtain ⟨e, g, l⟩ := f
  cases e <;> cases g <;> cases l <;> rfl

lemma Flags.bits_ofBits (b : UInt8) : (Flags.ofBits b).bits.toNat = b.toNat % 8 := by
  have hall : ∀ n < 256, (ofBits (UInt8.ofNat n)).bits.toNat = n % 8 := by decide +kernel
  have hb := hall b.toNat b.toNat_lt
  rwa [UInt8.ofNat_toNat] at hb

lemma Output.line_eq (v : UInt8) : String.ofList (line v) = toString v.toNat ++ "\n" := by
  rw [line, String.ofList_append]
  rfl

/-- A print that succeeds appends the whole line. -/
lemma Output.text_print {o : Output} {v : UInt8} (h : (o.print v).2 = .ok ()) :
    (o.print v).1.text = o.text ++ toString v.toNat ++ "\n" := by
  rw [String.append_assoc, ← line_eq]
  simp only [print, write, Sink.write] at h ⊢
  cases hroom : o.room with
  | none => rfl
  | some n =>
    simp only [hroom] at h ⊢
    by_cases hfits : (line v).length ≤ n
    · rw [List.take_of_length_le hfits]
    · rw [if_neg hfits] at h
      cases h

/-! ## Instructions in numbers -/

namespace Machine

variable {m : Machine}

lemma register_snapshot_of_lt {n : Nat} (h : n < registerCount) :
    m.snapshot.register n = (m.registers.read ⟨n, h⟩).toNat := by
  simp only [snapshot, Registers.get?_of_lt _ h, Option.getD_some]

lemma register_snapshot_seven :
    m.snapshot.register 7 = m.registers.stackPointer.toNat :=
  register_snapshot_of_lt (by decide)

lemma byte_snapshot (address : Nat) : m.snapshot.byte address = (m.ram.byte address).toNat := by
  simp only [Snapshot.byte, snapshot, Ram.byte]
  cases m.ram.cell? address <;> rfl

lemma snapshot_write (r : Register) (v : UInt8) :
    ({ m with registers := m.registers.write r v } : Machine).snapshot =
      m.snapshot.set r.val v.toNat := by
  have hregister : ∀ n, (((m.registers.write r v).get? n).getD 0).toNat =
      if n = r.val then v.toNat else m.snapshot.register n := by
    intro n
    rw [Registers.get?_write]
    split <;> rfl
  simp only [snapshot, Snapshot.set, hregister]

lemma snapshot_assign {b : UInt8} (hb : b.toNat < registerCount) (v : UInt8) :
    (m.assign b v).snapshot = m.snapshot.set b.toNat v.toNat := by
  rw [assign_of_lt hb, snapshot_write]

lemma snapshot_raised {number : UInt8} (h : number.toNat < interruptLines) :
    (m.raised number).snapshot =
      m.snapshot.set 6 (m.snapshot.register 6 ||| 1 <<< number.toNat) := by
  have hsix : m.snapshot.register 6 = (m.registers.read .status).toNat :=
    register_snapshot_of_lt (by decide)
  rw [hsix, ← toNat_lineBit h, ← UInt8.toNat_or]
  exact snapshot_write .status _

lemma snapshot_pushed {v : UInt8}
    (h : (m.registers.stackPointer - 1).toNat < m.ram.size) :
    (m.pushed v).snapshot =
      (m.snapshot.store (m.registers.stackPointer - 1).toNat v.toNat).set 7
        (m.registers.stackPointer - 1).toNat := by
  have hmemory : ∀ cell,
      ((m.ram.store (m.registers.stackPointer - 1).toNat v).cell? cell).map UInt8.toNat =
        if cell = (m.registers.stackPointer - 1).toNat then some v.toNat
        else (m.ram.cell? cell).map UInt8.toNat := by
    intro cell
    by_cases hcell : cell = (m.registers.stackPointer - 1).toNat
    · rw [hcell, Ram.cell?_store_self _ _ h, if_pos rfl]
      rfl
    · rw [Ram.cell?_store_of_ne _ _ (Ne.symm hcell), if_neg hcell]
  let stored : Machine := { m with ram := m.ram.store (m.registers.stackPointer - 1).toNat v }
  have hstore : stored.snapshot =
      m.snapshot.store (m.registers.stackPointer - 1).toNat v.toNat := by
    simp only [stored, snapshot, Snapshot.store, hmemory]
  have hwrite : (m.pushed v).snapshot =
      stored.snapshot.set 7 (m.registers.stackPointer - 1).toNat :=
    snapshot_write (m := stored) .stackPointer (m.registers.stackPointer - 1)
  rw [hwrite, hstore]

lemma snapshot_returned :
    m.returned.snapshot =
      { m.snapshot with
        register := fun r =>
          if r < 7 then m.snapshot.byte ((m.snapshot.register 7 + (6 - r)) % 256)
          else if r = 7 then (m.snapshot.register 7 + 9) % 256
          else m.snapshot.register r
        flags := m.snapshot.byte ((m.snapshot.register 7 + 7) % 256) % 8
        interruptsEnabled := true } := by
  have hbyte : ∀ i, m.snapshot.byte ((m.snapshot.register 7 + i) % 256) =
      (m.ram.byte (m.registers.stackPointer + UInt8.ofNat i).toNat).toNat := by
    intro i
    rw [byte_snapshot, register_snapshot_seven, toNat_add_ofNat]
  apply Snapshot.ext
  -- the popped registers, the stack pointer, and the numbers that name no register
  · funext r
    simp only [hbyte]
    by_cases hlow : r < 7
    · have hr : r < registerCount := Nat.lt_succ_of_lt hlow
      have hne : (⟨r, hr⟩ : Register) ≠ Register.stackPointer := by
        intro h
        have hval : r = 7 := congrArg Fin.val h
        omega
      rw [if_pos hlow, register_snapshot_of_lt hr, read_returned hne]
    · rw [if_neg hlow]
      by_cases hseven : r = 7
      · subst hseven
        rw [if_pos rfl, register_snapshot_seven, register_snapshot_seven, stackPointer_returned,
          toNat_add_ofNat]
      · have hr : registerCount ≤ r := by
          show 8 ≤ r
          omega
        rw [if_neg hseven]
        simp only [snapshot, Registers.get?_of_le _ hr]
  · exact pc_returned m
  · show m.returned.flags.bits.toNat = _
    rw [flags_returned, Flags.bits_ofBits, hbyte]
  · show (fun address => (m.returned.ram.cell? address).map UInt8.toNat) = _
    rw [ram_returned]
    rfl
  · exact phase_returned m
  · rfl
  · show m.returned.output.text = _
    rw [output_returned]
    rfl

lemma flags_snapshot_mod_two : m.snapshot.flags % 2 = m.flags.equal.toNat :=
  m.flags.bits_mod_two

/-- An instruction that does nothing but store a byte in the register of its first operand. -/
lemma advance_set (op : Opcode) {b : UInt8} (hb : b.toNat < registerCount) {v : UInt8} {n : Nat}
    (hv : v.toNat = n) :
    op.advance (m.snapshot.set b.toNat n) = (m.assign b v).snapshot.follow op.length .next := by
  rw [snapshot_assign hb, hv, Opcode.advance_eq]

/-- The effect and the flow of an instruction that does not fault are what the table says. -/
lemma table_eq_follow {i : Instruction} (hfault : i.fault? m = none) (hpc : m.pc + 2 < 256) :
    i.opcode.table i.a.toNat i.b.toNat m.snapshot =
      (i.effect m).snapshot.follow i.length (i.flow m) := by
  rw [Instruction.fault?, Option.or_eq_none_iff, Option.map_eq_none_iff] at hfault
  obtain ⟨hoperands, hdemand⟩ := hfault
  obtain ⟨op, a, b⟩ := i
  cases op with
  | hlt => rfl
  | ldi => exact advance_set .ldi (lt_of_find?_bad_single hoperands) rfl
  | inc => exact advance_set .inc (lt_of_find?_bad_single hoperands) (UInt8.toNat_add ..)
  | dec => exact advance_set .dec (lt_of_find?_bad_single hoperands) (toNat_sub_one _)
  | add => exact advance_set .add (lt_of_find?_bad_pair hoperands).1 (UInt8.toNat_add ..)
  | mul => exact advance_set .mul (lt_of_find?_bad_pair hoperands).1 (UInt8.toNat_mul ..)
  | div => exact advance_set .div (lt_of_find?_bad_pair hoperands).1 (UInt8.toNat_div ..)
  | and => exact advance_set .and (lt_of_find?_bad_pair hoperands).1 (UInt8.toNat_and ..)
  | cmp =>
    show Opcode.cmp.advance
      { m.snapshot with flags := orderBit (m.contents a).toNat (m.contents b).toNat } = _
    rw [← Flags.bits_compare, Opcode.advance_eq]
    rfl
  | prn =>
    have hprint := Instruction.print_of_executionFault? hdemand
    show Opcode.prn.advance
      { m.snapshot with
        printed := m.output.text ++ toString (m.contents a).toNat ++ "\n" } = _
    rw [← Output.text_print hprint, Opcode.advance_eq]
    rfl
  | int =>
    have hnumber := Instruction.number_of_executionFault? hdemand
    show Opcode.int.advance _ =
      (m.raised (m.contents a)).snapshot.follow Opcode.int.length .next
    rw [snapshot_raised hnumber, Opcode.advance_eq]
    rfl
  | jmp => rfl
  | jeq =>
    simp only [Opcode.table, Instruction.flow, flags_snapshot_mod_two]
    cases m.flags.equal with
    | true => rfl
    | false => exact Opcode.advance_eq _ _
  | jne =>
    simp only [Opcode.table, Instruction.flow, flags_snapshot_mod_two]
    cases m.flags.equal with
    | true => exact Opcode.advance_eq _ _
    | false => rfl
  | call =>
    have hcell := Instruction.cell_of_executionFault? hdemand
    have hreturn : (UInt8.ofNat (m.pc + Opcode.call.length)).toNat = m.pc + 2 :=
      UInt8.toNat_ofNat_of_lt' hpc
    show _ = ((m.pushed (UInt8.ofNat (m.pc + Opcode.call.length))).snapshot.goto
      (m.contents a).toNat)
    rw [snapshot_pushed hcell, hreturn, toNat_sub_one, ← register_snapshot_seven]
    rfl
  | iret =>
    show _ = m.returned.snapshot.goto m.returnAddress.toNat
    rw [snapshot_returned, returnAddress_eq, toNat_add_ofNat, ← register_snapshot_seven,
      ← byte_snapshot]
    rfl

@[simp] lemma snapshot_traced (i : Instruction) : (m.traced i).snapshot = m.snapshot := by
  unfold traced
  split <;> rfl

lemma snapshot_carriedOut {i : Instruction} (hfault : i.fault? m = none) (hpc : m.pc + 2 < 256) :
    (m.carriedOut i).snapshot = i.opcode.table i.a.toNat i.b.toNat m.snapshot := by
  have hagrees := m.agrees_traced i
  have htable := table_eq_follow (m := m.traced i) (i := i)
    (by rw [hagrees.fault? (output_traced m i), hfault]) (by rw [hagrees.pc]; exact hpc)
  rw [snapshot_traced, hagrees.flow] at htable
  rw [htable, carriedOut]
  cases i.flow m <;> rfl

lemma snapshot_begun (h : m.phase ≠ .halted) :
    m.begun.snapshot = { m.snapshot with phase := .running } := by
  rw [← phase_begun h]
  unfold begun started
  split <;> rfl

lemma jumps_eq (i : Instruction) :
    i.opcode.jumps m.snapshot = match i.flow m with
      | .jump _ => true
      | _ => false := by
  obtain ⟨op, a, b⟩ := i
  cases op with
  | jeq | jne =>
    simp only [Opcode.jumps, Instruction.flow, flags_snapshot_mod_two]
    cases m.flags.equal <;> rfl
  | _ => rfl

/-- A jump is counted if the table says that the instruction jumps. -/
lemma statistics_carriedOut (i : Instruction) :
    (m.carriedOut i).statistics =
      { m.statistics.retire i.opcode.instructionClass with
        branchesTaken := m.statistics.branchesTaken +
          if i.opcode.jumps m.snapshot then 1 else 0 } := by
  have hbranches : (m.statistics.retire i.opcode.instructionClass).branchesTaken =
      m.statistics.branchesTaken := by
    cases i.opcode.instructionClass <;> rfl
  rw [jumps_eq, carriedOut]
  cases i.flow m with
  | jump target => simp [followed, retired, hbranches]
  | next | halt => simp [followed, retired, ← hbranches]

lemma tracing_carriedOut (i : Instruction) : (m.carriedOut i).tracing = m.tracing := by
  rw [carriedOut]
  cases i.flow m <;> simp [followed, retired]

/-- **The instruction table.**  A tick of a reached machine that dispatches no interrupt and does
not fault has the effect of the instruction at the program counter that the table gives, and no
other. -/
theorem tick_follows_table {program : List UInt8} {c : Config} {output : Output} {m m' : Machine}
    (reached : Reached program c output m) (hphase : m.phase ≠ .halted)
    (hquiet : m.interruptsEnabled = false ∨
      m.registers.read .mask &&& m.registers.read .status = 0)
    (hok : m.perform tick = (.ok (), m')) :
    ∃ (op : Opcode) (a b : UInt8),
      m.ram.cell? m.pc = some op.byte
        ∧ m.ram.cell? (m.pc + 1) = some a
        ∧ m.ram.cell? (m.pc + 2) = some b
        ∧ m'.snapshot = op.table a.toNat b.toNat { m.snapshot with phase := .running }
        ∧ m'.statistics =
          { m.statistics.retire op.instructionClass with
            ticks := m.statistics.ticks + 1
            branchesTaken := m.statistics.branchesTaken +
              if op.jumps m.snapshot then 1 else 0 }
        ∧ m'.tracing = m.tracing := by
  have hbegun := m.agrees_begun
  have hdue : m.dueLine? = none := dueLine?_eq_none_iff.2 hquiet
  have hserviced : m.begun.serviced = m.begun := serviced_of_none (by rw [hbegun.dueLine?, hdue])
  obtain ⟨hnofault, rfl⟩ := tick_eq_ok hphase hok
  rw [← stepFault?_begun, stepFault?_eq_none_iff, hserviced] at hnofault
  obtain ⟨-, hfetch, i, hi, hfault⟩ := hnofault
  have hsize := reached.size_ram_le
  rw [stepped, hserviced, hi]
  rw [instruction?, hbegun.pc, hbegun.ram] at hi
  rw [hbegun.pc, hbegun.ram] at hfetch
  obtain ⟨op, hop, rfl⟩ := Option.map_eq_some_iff.1 hi
  have hcell : ∀ k ≤ 2, m.ram.cell? (m.pc + k) = some (m.ram.byte (m.pc + k)) := fun k hk =>
    Ram.cell?_of_lt _ (by omega)
  refine ⟨op, m.ram.byte (m.pc + 1), m.ram.byte (m.pc + 2), ?_, hcell 1 (by decide),
    hcell 2 (by decide), ?_, ?_, ?_⟩
  · rw [Opcode.byte_eq_of_ofByte? hop]
    exact hcell 0 (by decide)
  · rw [← snapshot_begun hphase]
    exact snapshot_carriedOut hfault (by rw [hbegun.pc]; omega)
  · rw [statistics_carriedOut, snapshot_begun hphase, statistics_begun]
    cases op.instructionClass <;> rfl
  · rw [tracing_carriedOut, tracing_begun]

/-- A machine that is about to call the address in its stack pointer. -/
def callingMachine : Machine :=
  loaded [0x48, 7] {} .unlimited

/-- The target is the stack pointer from before the call. -/
theorem tick_follows_table_call :
    ∃ m', callingMachine.perform tick = (.ok (), m')
      ∧ m'.snapshot.pc = 0xF4
      ∧ m'.snapshot.register 7 = 0xF3
      ∧ m'.snapshot.byte 0xF3 = 2 := by
  have hreached : Reached [0x48, 7] {} .unlimited callingMachine :=
    Reached.loaded ((Config.validate_eq_ok_iff _).1 rfl) (by decide)
  have hphase : callingMachine.phase ≠ .halted := by decide
  have hfault : callingMachine.stepFault? = none := by decide +kernel
  have hok := perform_tick_of_none hphase hfault
  obtain ⟨op, a, b, hop, ha, hb, htable, -⟩ :=
    tick_follows_table hreached hphase (.inr (by decide)) hok
  have hcall : callingMachine.ram.cell? callingMachine.pc = some 0x48 := by decide +kernel
  have hseven : callingMachine.ram.cell? (callingMachine.pc + 1) = some 7 := by decide +kernel
  have hzero : callingMachine.ram.cell? (callingMachine.pc + 2) = some 0 := by decide +kernel
  rw [hcall, Option.some_inj] at hop
  rw [hseven, Option.some_inj] at ha
  rw [hzero, Option.some_inj] at hb
  subst ha hb
  obtain rfl : op = .call := by
    have hfound := Opcode.ofByte?_byte op
    rw [← hop] at hfound
    exact (Option.some_inj.1 hfound).symm
  refine ⟨_, hok, ?_, ?_, ?_⟩
  all_goals rw [htable]
  all_goals decide +kernel

end Machine

end LS8
