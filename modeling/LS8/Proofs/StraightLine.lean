import LS8.Proofs.Sink
import LS8.Proofs.InstructionTable
import LS8.Proofs.Run
import Mathlib.Data.List.Infix

/-!
# Straight-line code

Nine of the instructions only compute: they read and write registers, flags and output and go on
with what follows them in memory.  Such an instruction has a meaning of its own on a `Slate`, which
holds these three things and neither program counter nor memory (`Instruction.act`), and the meaning
of a list of them is a left fold.

Written into memory with a halt behind it, the list runs exactly as the fold goes
(`run_follows_fold`).  A tick fetches three bytes however long the instruction is, so what it
decodes agrees with the instruction that was written only in the bytes that the instruction uses
(`encode_eq_of_decode?`); the fold does not look at the others.  No interrupt is dispatched, because
none of the instructions writes to `R6`.
-/

namespace LS8

/-! ## Slates -/

/-- What straight-line code computes with, in numbers. -/
@[ext]
structure Slate where
  /-- The registers, by their numbers. -/
  register : Nat → Nat
  /-- The condition flags, as the bits `00000LGE`. -/
  flags : Nat
  /-- Everything printed so far. -/
  printed : String

/-- What can be wrong with an instruction of straight-line code. -/
inductive Mishap where
  /-- The operand byte names no register. -/
  | noRegister (b : UInt8)
  /-- The divisor is zero. -/
  | zeroDivisor
  deriving DecidableEq, Repr

/-- The fault of an instruction at the given address. -/
def Mishap.fault (pc : Nat) : Mishap → Fault
  | noRegister b => .invalidRegister b pc
  | zeroDivisor => .divisionByZero pc

namespace Slate

/-- The slate of a machine that has done nothing yet. -/
def initial (stackTop : UInt8) (printed : String) : Slate where
  register r := if r = 7 then stackTop.toNat else 0
  flags := 0
  printed := printed

variable (s : Slate)

/-- The number in the register that an operand byte names. -/
def read (b : UInt8) : Except Mishap Nat :=
  if b.toNat < 8 then .ok (s.register b.toNat) else .error (.noRegister b)

/-- The slate with a number in the register that an operand byte names. -/
def write (b : UInt8) (v : Nat) : Slate :=
  { s with register := fun r => if r = b.toNat then v else s.register r }

/-- Replaces the number in a register. -/
def update (a : UInt8) (f : Nat → Nat) : Except Mishap Slate := do
  let x ← s.read a
  return s.write a (f x)

/-- Replaces the number in a register by a function of it and of the number in another one. -/
def combine (a b : UInt8) (f : Nat → Nat → Nat) : Except Mishap Slate := do
  let x ← s.read a
  let y ← s.read b
  return s.write a (f x y)

end Slate

/-- The instruction touches nothing but registers, flags and output. -/
def Opcode.computes : Opcode → Bool
  | ldi | prn | add | mul | div | and | cmp | inc | dec => true
  | _ => false

namespace Instruction

/-- The instruction only computes, and `R6` is not its destination. -/
structure Straight (i : Instruction) : Prop where
  computes : i.opcode.computes = true
  spares : i.opcode = .cmp ∨ i.opcode = .prn ∨ i.a ≠ 6

instance (i : Instruction) : Decidable i.Straight :=
  decidable_of_iff (i.opcode.computes = true ∧ (i.opcode = .cmp ∨ i.opcode = .prn ∨ i.a ≠ 6))
    ⟨fun h => ⟨h.1, h.2⟩, fun h => ⟨h.computes, h.spares⟩⟩

/-- What a straight instruction does to a slate.  The others do nothing here. -/
def act (i : Instruction) (s : Slate) : Except Mishap Slate :=
  match i.opcode with
  | .ldi => s.update i.a fun _ => i.b.toNat
  | .inc => s.update i.a fun x => (x + 1) % 256
  | .dec => s.update i.a fun x => (x + 255) % 256
  | .add => s.combine i.a i.b fun x y => (x + y) % 256
  | .mul => s.combine i.a i.b fun x y => x * y % 256
  | .and => s.combine i.a i.b fun x y => x &&& y
  | .div => do
    let x ← s.read i.a
    let y ← s.read i.b
    if y = 0 then throw .zeroDivisor
    return s.write i.a (x / y)
  | .cmp => do
    let x ← s.read i.a
    let y ← s.read i.b
    return { s with flags := orderBit x y }
  | .prn => do
    let x ← s.read i.a
    return { s with printed := s.printed ++ toString x ++ "\n" }
  | _ => return s

/-- The left fold of some instructions over a slate, up to the first that does not work. -/
def actAll (code : List Instruction) (s : Slate) : Except Mishap Slate :=
  code.foldlM (fun t i => i.act t) s

/-- The encodings of some instructions in a row. -/
def encodeAll (code : List Instruction) : List UInt8 :=
  code.flatMap encode

end Instruction

/-! ## Registers of a slate -/

namespace Slate

variable {s t : Slate} {a b : UInt8}

lemma read_of_lt (h : b.toNat < 8) : s.read b = .ok (s.register b.toNat) := if_pos h

lemma read_of_le (h : 8 ≤ b.toNat) : s.read b = .error (.noRegister b) := if_neg (Nat.not_lt.2 h)

lemma read_eq_ok {x : Nat} (h : s.read b = .ok x) : x = s.register b.toNat := by
  by_cases hb : b.toNat < 8
  · rw [read_of_lt hb] at h
    cases h
    rfl
  · rw [read_of_le (Nat.le_of_not_lt hb)] at h
    cases h

lemma bind_read_eq_ok {k : Nat → Except Mishap Slate} (h : (s.read b >>= k) = .ok t) :
    k (s.register b.toNat) = .ok t := by
  cases hread : s.read b with
  | error mishap =>
    rw [hread] at h
    cases h
  | ok x =>
    rw [hread] at h
    rw [← read_eq_ok hread]
    exact h

lemma update_eq_ok {f : Nat → Nat} (h : s.update a f = .ok t) :
    t = s.write a (f (s.register a.toNat)) :=
  (Except.ok.inj (bind_read_eq_ok h)).symm

lemma combine_eq_ok {f : Nat → Nat → Nat} (h : s.combine a b f = .ok t) :
    t = s.write a (f (s.register a.toNat) (s.register b.toNat)) :=
  (Except.ok.inj (bind_read_eq_ok (bind_read_eq_ok h))).symm

end Slate

/-! ## The table on slates -/

/-- What straight-line code sees of a snapshot. -/
def Snapshot.slate (s : Snapshot) : Slate where
  register := s.register
  flags := s.flags
  printed := s.printed

/-- What straight-line code sees of a machine. -/
def Machine.slate (m : Machine) : Slate :=
  m.snapshot.slate

namespace Instruction

variable {i j : Instruction}

/-- A straight instruction does to a slate what the table says. -/
lemma slate_table {s : Snapshot} {t : Slate} (hi : i.Straight) (h : i.act s.slate = .ok t) :
    (i.opcode.table i.a.toNat i.b.toNat s).slate = t := by
  obtain ⟨op, a, b⟩ := i
  cases op with
  | ldi | inc | dec =>
    rw [Slate.update_eq_ok h]
    rfl
  | add | mul | and =>
    rw [Slate.combine_eq_ok h]
    rfl
  | div =>
    have hdivide := Slate.bind_read_eq_ok (Slate.bind_read_eq_ok h)
    split at hdivide
    · cases hdivide
    · cases hdivide
      rfl
  | cmp =>
    cases Slate.bind_read_eq_ok (Slate.bind_read_eq_ok h)
    rfl
  | prn =>
    cases Slate.bind_read_eq_ok h
    rfl
  | _ => exact absurd hi.computes Bool.false_ne_true

/-- Nothing in straight-line code raises an interrupt. -/
lemma register_table_six (hi : i.Straight) (s : Snapshot) :
    (i.opcode.table i.a.toNat i.b.toNat s).register 6 = s.register 6 := by
  obtain ⟨op, a, b⟩ := i
  have hspares : op ≠ .cmp → op ≠ .prn → ¬6 = a.toNat := by
    intro hcmp hprn hsix
    obtain hop | hop | hne := hi.spares
    · exact hcmp hop
    · exact hprn hop
    · exact hne (UInt8.toNat_inj.1 hsix.symm)
  cases op with
  | cmp | prn => rfl
  | ldi | inc | dec | add | mul | and | div => exact if_neg (hspares (by decide) (by decide))
  | _ => exact absurd hi.computes Bool.false_ne_true

end Instruction

/-! ## Encodings -/

/-- Bytes that stand in a row stand one after the other. -/
lemma prefix_drop_of_append {cells before after : List UInt8} {address : Nat}
    (h : before ++ after <+: cells.drop address) :
    before <+: cells.drop address ∧ after <+: cells.drop (address + before.length) := by
  refine ⟨(List.prefix_append before after).trans h, ?_⟩
  have hdrop := List.IsPrefix.drop h before.length
  rwa [List.drop_left, List.drop_drop] at hdrop

lemma Ram.drop_eq_byte_cons (ram : Ram) {address : Nat} (h : address < ram.size) :
    ram.toList.drop address = ram.byte address :: ram.toList.drop (address + 1) := by
  have hcell : ram.toList[address]? = some (ram.byte address) := by
    rw [← ram.cell?_of_lt h]
    exact Array.getElem?_toList
  obtain ⟨hlt, hget⟩ := List.getElem?_eq_some_iff.1 hcell
  rw [List.drop_eq_getElem_cons hlt, hget]

/-- The three bytes that a fetch reads. -/
lemma Ram.take_three_drop (ram : Ram) {address : Nat} (h : address + 2 < ram.size) :
    (ram.toList.drop address).take 3 =
      [ram.byte address, ram.byte (address + 1), ram.byte (address + 2)] := by
  rw [ram.drop_eq_byte_cons (by omega), ram.drop_eq_byte_cons (by omega),
    ram.drop_eq_byte_cons h]
  rfl

namespace Instruction

variable {i j : Instruction}

/-- Instructions with the same encoding differ at most in operand bytes that they do not use. -/
lemma eq_of_encode_eq {op op' : Opcode} {a b a' b' : UInt8}
    (h : encode ⟨op', a', b'⟩ = encode ⟨op, a, b⟩) :
    op' = op ∧ (1 < op.length → a' = a) ∧ (2 < op.length → b' = b) := by
  have hlength : op'.length = op.length := by
    have hbytes := congrArg List.length h
    rwa [length_encode, length_encode] at hbytes
  have hbyte : ∀ k < op.length, ([op'.byte, a', b'] : List UInt8)[k]? = [op.byte, a, b][k]? := by
    intro k hk
    have hcell := congrArg (fun bytes => bytes[k]?) h
    simpa [encode, length, List.getElem?_take, hlength, hk] using hcell
  refine ⟨?_, ?_, ?_⟩
  · have hopcode : op'.byte = op.byte := Option.some_inj.1 (hbyte 0 (Nat.succ_pos _))
    have hfound := Opcode.ofByte?_byte op'
    rw [hopcode, Opcode.ofByte?_byte] at hfound
    exact (Option.some_inj.1 hfound).symm
  · exact fun hk => Option.some_inj.1 (hbyte 1 hk)
  · exact fun hk => Option.some_inj.1 (hbyte 2 hk)

lemma Straight.congr (hi : i.Straight) (h : j.encode = i.encode) : j.Straight := by
  obtain ⟨op, a, b⟩ := i
  obtain ⟨op', a', b'⟩ := j
  obtain ⟨rfl, ha, -⟩ := eq_of_encode_eq h
  have hlength : op'.computes = true → 1 < op'.length := by
    cases op' <;> decide
  obtain rfl : a' = a := ha (hlength hi.computes)
  exact ⟨hi.computes, hi.spares⟩

/-- What an instruction does depends on its encoding alone. -/
lemma act_congr (h : j.encode = i.encode) (s : Slate) : j.act s = i.act s := by
  obtain ⟨op, a, b⟩ := i
  obtain ⟨op', a', b'⟩ := j
  obtain ⟨rfl, ha, hb⟩ := eq_of_encode_eq h
  cases op' with
  | ldi | add | mul | and | div | cmp =>
    obtain rfl : a' = a := ha (by decide)
    obtain rfl : b' = b := hb (by decide)
    rfl
  | inc | dec | prn =>
    obtain rfl : a' = a := ha (by decide)
    rfl
  | _ => rfl

/-- Three bytes that begin with an encoding decode to an instruction with this encoding. -/
lemma encode_eq_of_decode? {x y z : UInt8} (h : i.encode <+: [x, y, z]) :
    ∃ j, decode? x y z = some j ∧ j.encode = i.encode := by
  rw [List.prefix_iff_eq_take, length_encode] at h
  have hx : i.opcode.byte = x := by
    have hhead := congrArg (fun bytes => bytes[0]?) h
    have hpos : 0 < i.length := Nat.succ_pos _
    simpa [encode, List.getElem?_take, hpos] using hhead
  refine ⟨⟨i.opcode, y, z⟩, ?_, ?_⟩
  · rw [decode?, ← hx, Opcode.ofByte?_byte, Option.map_some]
  · rw [h, ← hx]
    rfl

lemma encodeAll_cons (code : List Instruction) :
    encodeAll (i :: code) = i.encode ++ encodeAll code := List.flatMap_cons

lemma encodeAll_append (before after : List Instruction) :
    encodeAll (before ++ after) = encodeAll before ++ encodeAll after := List.flatMap_append

lemma actAll_cons_eq_ok {code : List Instruction} {s t : Slate}
    (h : actAll (i :: code) s = .ok t) : ∃ u, i.act s = .ok u ∧ actAll code u = .ok t := by
  rw [actAll, List.foldlM_cons] at h
  cases hact : i.act s with
  | error mishap =>
    rw [hact] at h
    cases h
  | ok u =>
    rw [hact] at h
    exact ⟨u, rfl, h⟩

/-- Code that does not work has a first instruction that does not. -/
lemma exists_of_actAll_eq_error {code : List Instruction} {s : Slate} {mishap : Mishap}
    (h : actAll code s = .error mishap) :
    ∃ before i after t, code = before ++ i :: after
      ∧ actAll before s = .ok t ∧ i.act t = .error mishap := by
  induction code generalizing s with
  | nil => cases h
  | cons i code ih =>
    rw [actAll, List.foldlM_cons] at h
    cases hact : i.act s with
    | error mishap' =>
      rw [hact] at h
      cases h
      exact ⟨[], i, code, s, rfl, rfl, hact⟩
    | ok u =>
      rw [hact] at h
      obtain ⟨before, j, after, t, hsplit, hbefore, hmishap⟩ := ih h
      refine ⟨i :: before, j, after, t, by rw [hsplit, List.cons_append], ?_, hmishap⟩
      rw [actAll, List.foldlM_cons, hact]
      exact hbefore

lemma length_le_length_encodeAll (code : List Instruction) :
    code.length ≤ (encodeAll code).length := by
  induction code with
  | nil => exact Nat.le_refl _
  | cons i code ih =>
    have hpos : 0 < i.length := Nat.succ_pos _
    rw [encodeAll_cons, List.length_append, length_encode, List.length_cons]
    omega

end Instruction

/-! ## The faults of straight instructions -/

/-- The output takes everything and every flush of it succeeds. -/
structure Output.NeverFails (o : Output) : Prop where
  room : o.room = none
  flushes : o.flushFails = false

namespace Output.NeverFails

variable {o : Output}

lemma print_fst (h : o.NeverFails) (v : UInt8) :
    (o.print v).1 = { o with text := o.text ++ String.ofList (Output.line v) } :=
  Output.eq_of_toSink (congrArg Prod.fst (Sink.write_of_none h.room))

lemma print (h : o.NeverFails) (v : UInt8) : (o.print v).1.NeverFails := by
  rw [h.print_fst]
  exact ⟨h.room, h.flushes⟩

lemma print_eq_ok (h : o.NeverFails) (v : UInt8) : (o.print v).2 = .ok () := by
  have hwrite : (o.write (Output.line v)).2 = .ok () :=
    congrArg Prod.snd (Sink.write_of_none h.room)
  have hflush : (o.print v).1.flush = .ok () := by
    rw [Sink.flush, (h.print v).flushes]
    rfl
  rw [Output.print, hwrite]
  exact hflush

end Output.NeverFails

namespace Instruction

variable {i : Instruction} {m : Machine}

/-- The fault of an instruction that looks up one register and then works. -/
lemma fault?_of_single (hoperands : i.registerOperands = [i.a])
    (hdemand : i.executionFault? m = none) (k : Nat → Slate)
    (hact : i.act m.slate = do return k (← m.slate.read i.a)) :
    i.fault? m = match i.act m.slate with
      | .ok _ => none
      | .error mishap => some (mishap.fault m.pc) := by
  rw [fault?, badOperand?, hoperands, hdemand, hact]
  by_cases ha : i.a.toNat < 8
  · rw [Slate.read_of_lt ha]
    simp [ha, bind, pure, Except.bind, Except.pure]
  · rw [Slate.read_of_le (Nat.le_of_not_lt ha)]
    simp [Nat.le_of_not_lt ha, bind, Except.bind, Mishap.fault]

/-- The fault of an instruction that looks up two registers before it goes on with them. -/
lemma fault?_of_pair (hoperands : i.registerOperands = [i.a, i.b])
    (k : Nat → Nat → Except Mishap Slate)
    (hdemand : i.executionFault? m =
      match k (m.slate.register i.a.toNat) (m.slate.register i.b.toNat) with
      | .ok _ => none
      | .error mishap => some (mishap.fault m.pc))
    (hact : i.act m.slate = do
      let x ← m.slate.read i.a
      let y ← m.slate.read i.b
      k x y) :
    i.fault? m = match i.act m.slate with
      | .ok _ => none
      | .error mishap => some (mishap.fault m.pc) := by
  rw [fault?, badOperand?, hoperands, hact]
  by_cases ha : i.a.toNat < 8
  · rw [Slate.read_of_lt ha]
    by_cases hb : i.b.toNat < 8
    · rw [Slate.read_of_lt hb, hdemand]
      simp [ha, hb, bind, Except.bind]
    · rw [Slate.read_of_le (Nat.le_of_not_lt hb)]
      simp [ha, Nat.le_of_not_lt hb, bind, Except.bind, Mishap.fault]
  · rw [Slate.read_of_le (Nat.le_of_not_lt ha)]
    simp [Nat.le_of_not_lt ha, bind, Except.bind, Mishap.fault]

/-- A straight instruction faults where it has no meaning, and for the same reason. -/
lemma fault?_eq (hi : i.Straight) (hout : m.output.NeverFails) :
    i.fault? m = match i.act m.slate with
      | .ok _ => none
      | .error mishap => some (mishap.fault m.pc) := by
  obtain ⟨op, a, b⟩ := i
  cases op with
  | ldi | inc | dec => exact fault?_of_single rfl rfl _ rfl
  | prn =>
    refine fault?_of_single rfl ?_ _ rfl
    simp only [executionFault?, hout.print_eq_ok]
  | add | mul | and | cmp => exact fault?_of_pair rfl _ rfl rfl
  | div =>
    refine fault?_of_pair rfl _ ?_ rfl
    have hzero : m.contents b = 0 ↔ m.slate.register b.toNat = 0 := UInt8.toNat_inj.symm
    simp only [executionFault?, hzero]
    by_cases hdivisor : m.slate.register b.toNat = 0
    · rw [if_pos hdivisor, if_pos hdivisor]
      rfl
    · rw [if_neg hdivisor, if_neg hdivisor]
      rfl
  | _ => exact absurd hi.computes Bool.false_ne_true

/-! ## What straight instructions leave alone -/

lemma flow_of_straight (hi : i.Straight) (m : Machine) : i.flow m = .next := by
  obtain ⟨op, a, b⟩ := i
  cases op with
  | ldi | prn | add | mul | div | and | cmp | inc | dec => rfl
  | _ => exact absurd hi.computes Bool.false_ne_true

lemma ram_effect_of_straight (hi : i.Straight) (m : Machine) : (i.effect m).ram = m.ram := by
  obtain ⟨op, a, b⟩ := i
  cases op with
  | ldi | prn | add | mul | div | and | cmp | inc | dec => rfl
  | _ => exact absurd hi.computes Bool.false_ne_true

lemma neverFails_effect (hi : i.Straight) (hout : m.output.NeverFails) :
    (i.effect m).output.NeverFails := by
  obtain ⟨op, a, b⟩ := i
  cases op with
  | prn => exact hout.print _
  | ldi | add | mul | div | and | cmp | inc | dec => exact hout
  | _ => exact absurd hi.computes Bool.false_ne_true

end Instruction

namespace Machine

open Instruction

variable {m m' : Machine} {i : Instruction}

/-! ## One tick of straight-line code -/

/-- Straight-line code moves the program counter past each instruction. -/
lemma carriedOut_of_straight (hi : i.Straight) (m : Machine) :
    m.carriedOut i =
      { (i.effect (m.traced i)).retired i with pc := m.pc + i.length } := by
  have hpc : (i.effect (m.traced i)).pc = m.pc := by
    rw [pc_effect, (m.agrees_traced i).pc]
  rw [carriedOut, flow_of_straight hi, ← hpc]
  rfl

lemma retired_carriedOut (i : Instruction) :
    (m.carriedOut i).statistics.retired = m.statistics.retired + 1 := by
  rw [statistics_carriedOut]
  rfl

lemma Agrees.slate (h : Agrees m m') (hout : m.output = m'.output) : m.slate = m'.slate := by
  simp only [Machine.slate, Snapshot.slate, snapshot, h.registers, h.flags, hout]

/-- How far a machine has come in straight-line code: the address it stands at, the number of
instructions it has retired, and its slate. -/
structure Computed (m : Machine) (address count : Nat) (s : Slate) : Prop where
  pc : m.pc = address
  retired : m.statistics.retired = UInt64.ofNat count
  slate : m.slate = s

/-- The machine goes on from there, in the given memory. -/
structure Computing (m : Machine) (image : Ram) (address count : Nat) (s : Slate) : Prop
    extends Computed m address count s where
  phase : m.phase ≠ .halted
  ram : m.ram = image
  output : m.output.NeverFails
  quiet : s.register 6 = 0

namespace Computing

variable {image : Ram} {address count : Nat} {s t : Slate}

lemma dueLine? (h : m.Computing image address count s) : m.dueLine? = none := by
  have hslate : (m.registers.read .status).toNat = s.register 6 := by
    rw [← h.slate]
    exact (register_snapshot_of_lt (by decide)).symm
  have hstatus : m.registers.read .status = 0 := by
    rw [h.quiet] at hslate
    exact UInt8.toNat_inj.1 hslate
  rw [dueLine?_eq_none_iff, Registers.pending, hstatus]
  exact Or.inr UInt8.and_zero

/-- The instruction that the machine finds where some bytes were written. -/
lemma instruction? (h : m.Computing image address count s)
    (hcode : i.encode <+: image.toList.drop address) (hfetch : address + 2 < image.size) :
    ∃ j, m.instruction? = some j ∧ j.encode = i.encode := by
  have hwindow : (image.toList.drop address).take 3 =
      [image.byte address, image.byte (address + 1), image.byte (address + 2)] :=
    image.take_three_drop hfetch
  have hbytes : i.encode <+: (image.toList.drop address).take 3 :=
    List.prefix_take_iff.2 ⟨hcode, by rw [i.length_encode]; exact i.opcode.length_le_three⟩
  rw [hwindow] at hbytes
  rw [Machine.instruction?, h.pc, h.ram]
  exact encode_eq_of_decode? hbytes

lemma perform_tick {j : Instruction} (h : m.Computing image address count s)
    (hfetch : address + 2 < image.size) (hj : m.instruction? = some j) :
    m.perform tick = match j.fault? m with
      | none => (.ok (), m.begun.carriedOut j)
      | some fault => (.error fault, (j.broken (m.begun.traced j)).stop fault) := by
  rw [← h.ram, ← h.pc] at hfetch
  exact perform_tick_of_quiet h.phase h.dueLine? hfetch hj

lemma pc_begun (h : m.Computing image address count s) : m.begun.pc = address :=
  m.agrees_begun.pc.trans h.pc

lemma retired_tick (h : m.Computing image address count s) (j : Instruction) :
    (m.begun.carriedOut j).statistics.retired = UInt64.ofNat (count + 1) := by
  rw [retired_carriedOut, statistics_begun, UInt64.ofNat_add, ← h.retired]
  rfl

lemma slate_begun (h : m.Computing image address count s) : m.begun.slate = s := by
  rw [Machine.slate, snapshot_begun h.phase, ← h.slate]
  rfl

/-- One instruction of straight-line code that works. -/
lemma tick_ok (h : m.Computing image address count s) (hi : i.Straight)
    (hcode : i.encode <+: image.toList.drop address) (hfetch : address + 2 < image.size)
    (hsize : image.size ≤ 256) (hact : i.act s = .ok t) :
    ∃ m', m.perform tick = (.ok (), m')
      ∧ m'.Computing image (address + i.length) (count + 1) t := by
  -- `j` may differ from `i` in the operand bytes that `i` does not use, and it is what runs
  obtain ⟨j, hj, hencode⟩ := h.instruction? hcode hfetch
  have hstraight : j.Straight := hi.congr hencode
  have hlength : j.length = i.length := by rw [← j.length_encode, hencode, i.length_encode]
  have hmeaning : j.act m.begun.slate = .ok t := by rw [h.slate_begun, act_congr hencode, hact]
  have hfault : j.fault? m.begun = none := by
    rw [fault?_eq hstraight (by rw [output_begun]; exact h.output), hmeaning]
  have htick := h.perform_tick hfetch hj
  rw [← m.agrees_begun.fault? m.output_begun, hfault] at htick
  have htable : (j.opcode.table j.a.toNat j.b.toNat m.begun.snapshot).slate = t :=
    slate_table hstraight hmeaning
  have hcarried := carriedOut_of_straight hstraight m.begun
  refine ⟨m.begun.carriedOut j, htick, ⟨?_, h.retired_tick j, ?_⟩, ?_, ?_, ?_, ?_⟩
  · rw [hcarried, h.pc_begun, hlength]
  · rw [Machine.slate, snapshot_carriedOut hfault (by rw [h.pc_begun]; omega), htable]
  · rw [hcarried]
    show (j.effect (m.begun.traced j)).phase ≠ .halted
    rw [phase_effect, phase_traced, phase_begun h.phase]
    decide
  · rw [hcarried]
    show (j.effect (m.begun.traced j)).ram = image
    rw [ram_effect_of_straight hstraight, (m.begun.agrees_traced j).ram, m.agrees_begun.ram, h.ram]
  · rw [hcarried]
    apply neverFails_effect hstraight
    rw [output_traced, output_begun]
    exact h.output
  · have hsix : m.begun.slate.register 6 = 0 := by rw [h.slate_begun, h.quiet]
    rw [← htable]
    exact (register_table_six hstraight _).trans hsix

/-- The first instruction of straight-line code that does not work. -/
lemma tick_error {mishap : Mishap} (h : m.Computing image address count s) (hi : i.Straight)
    (hcode : i.encode <+: image.toList.drop address) (hfetch : address + 2 < image.size)
    (hact : i.act s = .error mishap) :
    ∃ m', m.perform tick = (.error (mishap.fault address), m') ∧ m'.Computed address count s := by
  obtain ⟨j, hj, hencode⟩ := h.instruction? hcode hfetch
  have hstraight : j.Straight := hi.congr hencode
  let traced := m.begun.traced j
  have htraced : Agrees traced m.begun := m.begun.agrees_traced j
  have houtput : traced.output = m.output := by rw [output_traced, output_begun]
  have hslate : traced.slate = s := by
    rw [htraced.slate (output_traced ..), h.slate_begun]
  have hpc : traced.pc = address := by rw [htraced.pc, h.pc_begun]
  have hfault : j.fault? traced = some (mishap.fault address) := by
    rw [fault?_eq hstraight (by rw [houtput]; exact h.output), hslate, act_congr hencode, hact, hpc]
  have htick := h.perform_tick hfetch hj
  rw [← (htraced.trans m.agrees_begun).fault? houtput, hfault] at htick
  have hbroken : Agrees (j.broken traced) traced := by
    apply agrees_broken
    intro hiret
    have hcomputes := hstraight.computes
    rw [hiret] at hcomputes
    exact Bool.false_ne_true hcomputes
  have hprinted : (j.broken traced).output = traced.output := by
    apply output_broken hfault
    intro failure p
    cases mishap <;> simp [Mishap.fault]
  refine ⟨(j.broken traced).stop (mishap.fault address), htick, ?_, ?_, ?_⟩
  · show (j.broken traced).pc = address
    rw [pc_broken, hpc]
  · show (j.broken traced).statistics.retired = _
    rw [statistics_broken, statistics_traced, ← h.retired]
    rfl
  · show (j.broken traced).slate = s
    rw [hbroken.slate hprinted, hslate]

/-- The halt behind the code. -/
lemma tick_hlt (h : m.Computing image address count s)
    (hcode : encode ⟨.hlt, 0, 0⟩ <+: image.toList.drop address)
    (hfetch : address + 2 < image.size) (hsize : image.size ≤ 256) :
    ∃ m', m.perform tick = (.ok (), m') ∧ m'.phase = .halted
      ∧ m'.Computed address (count + 1) s := by
  obtain ⟨⟨op, a, b⟩, hj, hencode⟩ := h.instruction? hcode hfetch
  obtain ⟨rfl, -, -⟩ := eq_of_encode_eq hencode
  refine ⟨m.begun.carriedOut ⟨.hlt, a, b⟩, h.perform_tick hfetch hj, rfl, ?_,
    h.retired_tick _, ?_⟩
  · show (m.begun.traced ⟨.hlt, a, b⟩).pc = address
    rw [(m.begun.agrees_traced _).pc, h.pc_begun]
  · rw [Machine.slate, snapshot_carriedOut rfl (by rw [h.pc_begun]; omega)]
    exact h.slate_begun

/-! ## All of the code -/

/-- Straight-line code that works throughout. -/
lemma runFor {code : List Instruction} (h : m.Computing image address count s)
    (hstraight : ∀ i ∈ code, i.Straight) (hcode : encodeAll code <+: image.toList.drop address)
    (hfetch : address + (encodeAll code).length + 2 < image.size) (hsize : image.size ≤ 256)
    (hact : actAll code s = .ok t) :
    ∃ m' : Machine,
      m'.Computing image (address + (encodeAll code).length) (count + code.length) t
        ∧ ∀ budget, m.runFor (code.length + budget) = m'.runFor budget := by
  -- the code gets shorter from the front and the machine moves on; the image stays
  induction code generalizing m address count s with
  | nil =>
    cases hact
    refine ⟨m, h, fun budget => ?_⟩
    rw [List.length_nil, Nat.zero_add]
  | cons i code ih =>
    rw [encodeAll_cons] at hcode hfetch
    rw [List.length_append, length_encode] at hfetch
    obtain ⟨hhead, htail⟩ := prefix_drop_of_append hcode
    rw [length_encode] at htail
    obtain ⟨u, hfirst, hrest⟩ := actAll_cons_eq_ok hact
    have hi : i.Straight := hstraight i List.mem_cons_self
    have hcode' : ∀ j ∈ code, j.Straight := fun j hj => hstraight j (List.mem_cons_of_mem i hj)
    obtain ⟨m₁, htick, h₁⟩ := h.tick_ok hi hhead (by omega) hsize hfirst
    obtain ⟨m', h', hrun⟩ := ih h₁ hcode' htail (by omega) hrest
    refine ⟨m', ?_, fun budget => ?_⟩
    · rw [encodeAll_cons, List.length_append, length_encode, List.length_cons, ← Nat.add_assoc,
        Nat.add_comm code.length 1, ← Nat.add_assoc]
      exact h'
    · rw [List.length_cons, Nat.add_right_comm, runFor_succ _ h.phase, htick]
      exact hrun budget

/-- Straight-line code that works, with the halt behind it. -/
lemma runFor_halting {code : List Instruction} (h : m.Computing image address count s)
    (hstraight : ∀ i ∈ code, i.Straight)
    (hcode : encodeAll code ++ encode ⟨.hlt, 0, 0⟩ <+: image.toList.drop address)
    (hfetch : address + (encodeAll code).length + 2 < image.size) (hsize : image.size ≤ 256)
    (hact : actAll code s = .ok t) {budget : Nat} (hbudget : code.length < budget) :
    ∃ m', m.runFor budget = (some (.ok ()), m')
      ∧ m'.Computed (address + (encodeAll code).length) (count + code.length + 1) t := by
  obtain ⟨hbefore, hhlt⟩ := prefix_drop_of_append hcode
  obtain ⟨m₁, h₁, hrun⟩ := h.runFor hstraight hbefore hfetch hsize hact
  obtain ⟨m', htick, hhalted, hdone⟩ := h₁.tick_hlt hhlt hfetch hsize
  obtain ⟨rest, rfl⟩ := Nat.exists_eq_add_of_lt hbudget
  refine ⟨m', ?_, hdone⟩
  rw [Nat.add_assoc, hrun, runFor_succ _ h₁.phase, htick]
  exact runFor_of_halted rest hhalted

/-- Straight-line code up to the first instruction that does not work. -/
lemma runFor_faulting {before : List Instruction} {mishap : Mishap}
    (h : m.Computing image address count s) (hstraight : ∀ j ∈ before, j.Straight)
    (hi : i.Straight) (hcode : encodeAll before ++ i.encode <+: image.toList.drop address)
    (hfetch : address + (encodeAll before).length + 2 < image.size) (hsize : image.size ≤ 256)
    (hact : actAll before s = .ok t) (hmishap : i.act t = .error mishap) {budget : Nat}
    (hbudget : before.length < budget) :
    ∃ m', m.runFor budget =
        (some (.error (mishap.fault (address + (encodeAll before).length))), m')
      ∧ m'.Computed (address + (encodeAll before).length) (count + before.length) t := by
  obtain ⟨hbefore, hfaulting⟩ := prefix_drop_of_append hcode
  obtain ⟨m₁, h₁, hrun⟩ := h.runFor hstraight hbefore hfetch hsize hact
  obtain ⟨m', htick, hdone⟩ := h₁.tick_error hi hfaulting hfetch hmishap
  obtain ⟨rest, rfl⟩ := Nat.exists_eq_add_of_lt hbudget
  refine ⟨m', ?_, hdone⟩
  rw [Nat.add_assoc, hrun, runFor_succ _ h₁.phase, htick]

end Computing

/-! ## Loading and running -/

lemma slate_started : m.started.slate = m.slate := by
  unfold started
  split <;> rfl

lemma slate_loaded (program : List UInt8) (c : Config) (output : Output) :
    (loaded program c output).slate = .initial c.stackTop output.text := by
  have hblank : ∀ r, ((⟨Vector.replicate registerCount 0⟩ : Registers).get? r).getD 0 = 0 := by
    intro r
    simp only [Registers.get?, Vector.getElem?_replicate]
    split <;> rfl
  have hregister : ∀ r, (((Registers.initial c.stackTop).get? r).getD 0).toNat =
      if r = 7 then c.stackTop.toNat else 0 := by
    intro r
    have hseven : Register.stackPointer.val = 7 := rfl
    rw [Registers.initial, Registers.setStackPointer, Registers.get?_write, hseven]
    by_cases hr : r = 7
    · rw [if_pos hr, if_pos hr]
      rfl
    · rw [if_neg hr, if_neg hr, hblank]
      rfl
  have hflags : Flags.none.bits.toNat = 0 := by decide
  exact Slate.ext (funext hregister) hflags rfl

/-- A machine stands at the beginning of its program when it starts. -/
lemma computing_loaded {program : List UInt8} {c : Config} {output : Output}
    (hout : output.NeverFails) :
    (loaded program c output).started.Computing (loaded program c output).ram 0 0
      (.initial c.stackTop output.text) where
  pc := rfl
  retired := rfl
  slate := slate_started.trans (slate_loaded program c output)
  phase := by
    have hidle : (loaded program c output).phase ≠ .halted := fun h => nomatch h
    rw [phase_started hidle]
    decide
  ram := rfl
  output := hout
  quiet := rfl

/-- **Straight-line code follows its fold.**  Straight-line code with a halt behind it loads if
it leaves room for the last fetch, and then it runs as the fold over the initial slate goes.  If
every instruction works, the run halts at the end of the code with the slate of the fold.
Otherwise it ends in the fault of the first instruction that does not, at its address, with the
slate that the instructions before it left. -/
theorem run_follows_fold {code : List Instruction} {c : Config} {output : Output}
    (hstraight : ∀ i ∈ code, i.Straight) (hvalid : c.Valid)
    (hspace : (encodeAll code).length + 2 < c.ramSize) (hout : output.NeverFails) :
    ∃ s, Simulator.load (encodeAll code ++ encode ⟨.hlt, 0, 0⟩) c output = .ok s
      ∧ (∀ mishap, actAll code (.initial c.stackTop output.text) = .error mishap →
        ∃ before i after t, code = before ++ i :: after
          ∧ actAll before (.initial c.stackTop output.text) = .ok t ∧ i.act t = .error mishap)
      ∧ ∀ budget, code.length < budget →
        (∀ t, actAll code (.initial c.stackTop output.text) = .ok t →
          ∃ m', s.machine.run budget = (some (.ok ()), m')
            ∧ m'.pc = (encodeAll code).length
            ∧ m'.statistics.retired.toNat = code.length + 1
            ∧ m'.slate = t)
        ∧ ∀ before i after t mishap, code = before ++ i :: after →
          actAll before (.initial c.stackTop output.text) = .ok t → i.act t = .error mishap →
          ∃ m', s.machine.run budget =
              (some (.error (mishap.fault (encodeAll before).length)), m')
            ∧ m'.pc = (encodeAll before).length
            ∧ m'.statistics.retired.toNat = before.length
            ∧ m'.slate = t := by
  have hlength : (encodeAll code ++ encode ⟨.hlt, 0, 0⟩).length = (encodeAll code).length + 1 :=
    List.length_append
  have hfits : (encodeAll code ++ encode ⟨.hlt, 0, 0⟩).length ≤ c.ramSize := by omega
  refine ⟨_, Simulator.load_eq_ok_iff.2 ⟨hvalid, hfits, rfl⟩,
    fun mishap => exists_of_actAll_eq_error, fun budget hbudget => ?_⟩
  let m := loaded (encodeAll code ++ encode ⟨.hlt, 0, 0⟩) c output
  have hstart : m.started.Computing m.ram 0 0 (.initial c.stackTop output.text) :=
    computing_loaded hout
  have hprogram : encodeAll code ++ encode ⟨.hlt, 0, 0⟩ <+: m.ram.toList.drop 0 :=
    List.prefix_append _ _
  have hsize : m.ram.size = c.ramSize := (Reached.loaded hvalid hfits).size_ram
  have hspan : m.ram.size ≤ 256 := hsize.trans_le hvalid.2.1
  -- fewer than 256 instructions fit, so the counter has not wrapped
  have hcount : code.length ≤ (encodeAll code).length := length_le_length_encodeAll code
  have hexact : ∀ n ≤ 256, (UInt64.ofNat n).toNat = n := fun n hn =>
    UInt64.toNat_ofNat_of_lt' (Nat.lt_of_le_of_lt hn (by decide))
  simp only [run_eq]
  constructor
  · intro t hact
    obtain ⟨m', hrun, hdone⟩ :=
      hstart.runFor_halting hstraight hprogram (by omega) hspan hact hbudget
    simp only [Nat.zero_add] at hdone
    refine ⟨m', hrun, hdone.pc, ?_, hdone.slate⟩
    rw [hdone.retired]
    exact hexact _ (by omega)
  · rintro before i after t mishap rfl hact hmishap
    have hi : i.Straight := hstraight i (by simp)
    have hbefore : ∀ j ∈ before, j.Straight := fun j hj => hstraight j (by simp [hj])
    have hlengths : (before ++ i :: after).length = before.length + (after.length + 1) :=
      List.length_append
    have hsplit : encodeAll (before ++ i :: after) =
        encodeAll before ++ i.encode ++ encodeAll after := by
      rw [encodeAll_append, encodeAll_cons, List.append_assoc]
    have hsizes := congrArg List.length hsplit
    rw [List.length_append, List.length_append] at hsizes
    have hcode : encodeAll before ++ i.encode <+: m.ram.toList.drop 0 := by
      rw [hsplit, List.append_assoc] at hprogram
      exact (List.prefix_append _ _).trans hprogram
    obtain ⟨m', hrun, hdone⟩ := hstart.runFor_faulting hbefore hi hcode (by omega) hspan hact
      hmishap (by omega : before.length < budget)
    simp only [Nat.zero_add] at hrun hdone
    refine ⟨m', hrun, hdone.pc, ?_, hdone.slate⟩
    rw [hdone.retired]
    exact hexact _ (by omega)

/-- It works up to the division by the blank register, with a product that wraps. -/
theorem run_follows_fold_dividing :
    ∃ s, Simulator.load [0x99, 0, 200, 0x99, 1, 3, 0xAA, 0, 1, 0x43, 0, 0xAB, 0, 2, 0x78, 0, 1]
        {} .unlimited = .ok s
      ∧ ∃ m', s.machine.run 7 = (some (.error (.divisionByZero 11)), m')
        ∧ m'.pc = 11
        ∧ m'.statistics.retired.toNat = 4
        ∧ m'.slate.register 0 = 88
        ∧ m'.slate.printed = "88\n" := by
  let before : List Instruction := [⟨.ldi, 0, 200⟩, ⟨.ldi, 1, 3⟩, ⟨.mul, 0, 1⟩, ⟨.prn, 0, 9⟩]
  let code : List Instruction := before ++ ⟨.div, 0, 2⟩ :: [⟨.inc, 0, 0⟩]
  have hstraight : ∀ i ∈ code, i.Straight := by decide
  have hvalid : ({} : Config).Valid := (Config.validate_eq_ok_iff _).1 rfl
  have hout : Output.unlimited.NeverFails := ⟨rfl, rfl⟩
  obtain ⟨s, hload, -, hrun⟩ := run_follows_fold hstraight hvalid (by decide) hout
  obtain ⟨m', hanswer, hpc, hretired, hslate⟩ :=
    (hrun 7 (by decide)).2 before ⟨.div, 0, 2⟩ [⟨.inc, 0, 0⟩] _ .zeroDivisor rfl rfl rfl
  refine ⟨s, hload, m', hanswer, hpc, hretired, ?_, ?_⟩
  · rw [hslate]
    rfl
  · rw [hslate]
    decide +kernel

end Machine

end LS8
