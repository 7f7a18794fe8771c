import LS8.Machine.Execute
import LS8.Proofs.Interrupt

/-!
# What an instruction does

Every instruction of the machine comes apart into four functions of the state before it: the
faults that it can end in, the flow that it answers with, the machine that it leaves behind, and
the machine that it leaves behind when it faults.  `execute_apply` says that they are the whole of
`execute`, so that a property of instructions is a property of these functions, one case for each
opcode.

All register operands are looked up before anything else happens, so an operand that names no
register is a fault of its own (`Instruction.badOperand?`) that comes before the ones that depend
on the state (`Instruction.executionFault?`).
-/

namespace LS8

namespace Machine

variable (m : Machine)

/-! ## Registers named by operand bytes -/

/-- The contents of the register that an operand byte names, zero if it names none. -/
def contents (b : UInt8) : UInt8 :=
  (m.registers.get? b.toNat).getD 0

/-- The machine with a byte stored in the register that an operand byte names, the same machine
if it names none. -/
def assign (b v : UInt8) : Machine :=
  { m with registers := (m.registers.set? b.toNat v).getD m.registers }

/-- The machine with an interrupt line marked as pending. -/
def raised (number : UInt8) : Machine :=
  let status := m.registers.read .status ||| lineBit number.toNat
  { m with
    registers := m.registers.write .status status
    journal := m.journal.push (.interruptRaised number status) }

/-- The machine with a register printed, as far as the output takes it. -/
def printed (v : UInt8) : Machine :=
  { m with output := (m.output.print v).1 }

variable {m}

lemma contents_of_lt {b : UInt8} (h : b.toNat < registerCount) :
    m.contents b = m.registers.read ⟨b.toNat, h⟩ := by
  simp [contents, Registers.get?, Registers.read, h]

lemma assign_of_lt {b : UInt8} (h : b.toNat < registerCount) (v : UInt8) :
    m.assign b v = { m with registers := m.registers.write ⟨b.toNat, h⟩ v } := by
  simp [assign, Registers.set?, h]

variable (m)

lemma operand_of_lt {b : UInt8} (h : b.toNat < registerCount) :
    operand b m = .ok ⟨b.toNat, h⟩ m := by
  rw [operand_apply, Register.ofByte?, dif_pos h]

lemma operand_of_le {b : UInt8} (h : registerCount ≤ b.toNat) :
    operand b m = .error (.invalidRegister b m.pc) m := by
  rw [operand_apply, Register.ofByte?, dif_neg (Nat.not_lt.2 h)]

lemma readOperand_of_lt {b : UInt8} (h : b.toNat < registerCount) :
    readOperand b m = .ok (m.contents b) m := by
  rw [readOperand, bind_of_ok _ (operand_of_lt m h), contents_of_lt h]
  rfl

lemma readOperand_of_le {b : UInt8} (h : registerCount ≤ b.toNat) :
    readOperand b m = .error (.invalidRegister b m.pc) m := by
  rw [readOperand, bind_of_error _ (operand_of_le m h)]

end Machine

/-! ## Faults, flow and effect -/

namespace Instruction

variable (i : Instruction) (m : Machine)

/-- The operand bytes that name registers, in order. -/
def registerOperands : List UInt8 :=
  ((i.opcode.operands.zip [i.a, i.b]).filter fun o => o.1 = .register).map Prod.snd

/-- The first operand byte that should name a register and names none. -/
def badOperand? : Option UInt8 :=
  i.registerOperands.find? fun b => decide (registerCount ≤ b.toNat)

/-- The fault of an instruction whose register operands are fine. -/
def executionFault? : Option Fault :=
  match i.opcode with
  | .div => if m.contents i.b = 0 then some (.divisionByZero m.pc) else none
  | .int =>
    if (m.contents i.a).toNat < interruptLines then none
    else some (.invalidInterrupt (m.contents i.a) m.pc)
  | .call => m.ram.accessFault? (cellsBelow m.registers.stackPointer 1)
  | .iret => m.ram.accessFault? (cellsFrom m.registers.stackPointer 9)
  | .prn =>
    match (m.output.print (m.contents i.a)).2 with
    | .ok () => none
    | .error failure => some (.output failure m.pc)
  | _ => none

/-- The fault of an instruction. -/
def fault? : Option Fault :=
  (i.badOperand?.map fun b => .invalidRegister b m.pc).or (i.executionFault? m)

/-- Where execution goes on after an instruction that does not fault. -/
def flow : Flow :=
  match i.opcode with
  | .hlt => .halt
  | .iret => .jump m.returnAddress.toNat
  | .call | .jmp => .jump (m.contents i.a).toNat
  | .jeq => if m.flags.equal then .jump (m.contents i.a).toNat else .next
  | .jne => if m.flags.equal then .next else .jump (m.contents i.a).toNat
  | _ => .next

/-- The machine after an instruction that does not fault. -/
def effect : Machine :=
  match i.opcode with
  | .hlt | .jeq | .jne | .jmp => m
  | .iret => m.returned
  | .prn => m.printed (m.contents i.a)
  | .call => m.pushed (UInt8.ofNat (m.pc + Opcode.call.length))
  | .int => m.raised (m.contents i.a)
  | .inc => m.assign i.a (m.contents i.a + 1)
  | .dec => m.assign i.a (m.contents i.a - 1)
  | .ldi => m.assign i.a i.b
  | .cmp => { m with flags := Flags.compare (m.contents i.a) (m.contents i.b) }
  | .add => m.assign i.a (m.contents i.a + m.contents i.b)
  | .mul => m.assign i.a (m.contents i.a * m.contents i.b)
  | .div => m.assign i.a (m.contents i.a / m.contents i.b)
  | .and => m.assign i.a (m.contents i.a &&& m.contents i.b)

/-- The machine after an instruction that faults. -/
def broken : Machine :=
  match i.opcode with
  | .iret => m.returnBroken
  | .prn => if i.badOperand? = none then m.printed (m.contents i.a) else m
  | _ => m

end Instruction

/-! ## The whole of `execute` -/

namespace Machine

variable (m : Machine)

lemma find?_bad_pair {a b x : UInt8}
    (h : [a, b].find? (fun b => decide (registerCount ≤ b.toNat)) = some x) :
    (registerCount ≤ a.toNat ∧ x = a) ∨
      (a.toNat < registerCount ∧ registerCount ≤ b.toNat ∧ x = b) := by
  by_cases ha : registerCount ≤ a.toNat
  · rw [List.find?_cons_of_pos (by simpa using ha)] at h
    exact Or.inl ⟨ha, (Option.some_inj.1 h).symm⟩
  · rw [List.find?_cons_of_neg (by simpa using ha)] at h
    by_cases hb : registerCount ≤ b.toNat
    · rw [List.find?_cons_of_pos (by simpa using hb)] at h
      exact Or.inr ⟨Nat.lt_of_not_le ha, hb, (Option.some_inj.1 h).symm⟩
    · rw [List.find?_cons_of_neg (by simpa using hb)] at h
      cases h

lemma find?_bad_single {a x : UInt8}
    (h : [a].find? (fun b => decide (registerCount ≤ b.toNat)) = some x) :
    registerCount ≤ a.toNat ∧ x = a := by
  by_cases ha : registerCount ≤ a.toNat
  · rw [List.find?_cons_of_pos (by simpa using ha)] at h
    exact ⟨ha, (Option.some_inj.1 h).symm⟩
  · rw [List.find?_cons_of_neg (by simpa using ha)] at h
    cases h

lemma binary_of_bad (op : Alu.Operation) {a b x : UInt8}
    (h : [a, b].find? (fun b => decide (registerCount ≤ b.toNat)) = some x) :
    binary op a b m = .error (.invalidRegister x m.pc) m := by
  rw [binary]
  obtain ⟨ha, rfl⟩ | ⟨ha, hb, rfl⟩ := find?_bad_pair h
  · exact bind_of_error _ (operand_of_le m ha)
  · rw [bind_of_ok _ (operand_of_lt m ha)]
    exact bind_of_error _ (operand_of_le m hb)

/-- An operand that names no register is a fault before anything else is. -/
lemma execute_of_badOperand {i : Instruction} {x : UInt8} (h : i.badOperand? = some x) :
    execute i m = .error (.invalidRegister x m.pc) m := by
  obtain ⟨op, a, b⟩ := i
  cases op with
  | hlt | iret => cases h
  | prn | call | jeq | jne | jmp =>
    obtain ⟨ha, rfl⟩ := find?_bad_single h
    exact bind_of_error _ (readOperand_of_le m ha)
  | int | inc | dec | ldi =>
    obtain ⟨ha, rfl⟩ := find?_bad_single h
    exact bind_of_error _ (operand_of_le m ha)
  | cmp | add | mul | div | and => exact binary_of_bad m _ h

/-- A bad operand leaves nothing behind. -/
lemma broken_of_badOperand {i : Instruction} {x : UInt8} (h : i.badOperand? = some x) :
    i.broken m = m := by
  have hne : i.badOperand? ≠ none := by simp [h]
  obtain ⟨op, a, b⟩ := i
  cases op with
  | iret => cases h
  | prn => exact if_neg hne
  | _ => rfl

lemma lt_of_find?_bad_single {a : UInt8}
    (h : [a].find? (fun b => decide (registerCount ≤ b.toNat)) = none) :
    a.toNat < registerCount := by
  simpa using h

lemma lt_of_find?_bad_pair {a b : UInt8}
    (h : [a, b].find? (fun b => decide (registerCount ≤ b.toNat)) = none) :
    a.toNat < registerCount ∧ b.toNat < registerCount := by
  simpa using h

lemma compute_apply (op : Alu.Operation) (r : Register) (x y : UInt8) :
    compute op r x y m = match Alu.execute op x y with
      | .ok (.value v) => .ok () { m with registers := m.registers.write r v }
      | .ok (.flags f) => .ok () { m with flags := f }
      | .error .divisionByZero => .error (.divisionByZero m.pc) m := by
  unfold compute
  cases Alu.execute op x y with
  | error failure => rfl
  | ok outcome => cases outcome <;> rfl

lemma unary_of_lt (op : Alu.Operation) {a : UInt8} (ha : a.toNat < registerCount) :
    unary op a m = match Alu.execute op (m.contents a) 0 with
      | .ok (.value v) => .ok .next (m.assign a v)
      | .ok (.flags f) => .ok .next { m with flags := f }
      | .error .divisionByZero => .error (.divisionByZero m.pc) m := by
  rw [unary, bind_of_ok _ (operand_of_lt m ha), bind_of_ok _ (readRegister_apply ..), bind_apply,
    compute_apply, ← contents_of_lt ha]
  simp only [assign_of_lt ha]
  cases Alu.execute op (m.contents a) 0 with
  | error failure => rfl
  | ok outcome => cases outcome <;> rfl

lemma binary_of_lt (op : Alu.Operation) {a b : UInt8} (ha : a.toNat < registerCount)
    (hb : b.toNat < registerCount) :
    binary op a b m = match Alu.execute op (m.contents a) (m.contents b) with
      | .ok (.value v) => .ok .next (m.assign a v)
      | .ok (.flags f) => .ok .next { m with flags := f }
      | .error .divisionByZero => .error (.divisionByZero m.pc) m := by
  rw [binary, bind_of_ok _ (operand_of_lt m ha), bind_of_ok _ (operand_of_lt m hb),
    bind_of_ok _ (readRegister_apply ..), bind_of_ok _ (readRegister_apply ..), bind_apply,
    compute_apply, ← contents_of_lt ha, ← contents_of_lt hb]
  simp only [assign_of_lt ha]
  cases Alu.execute op (m.contents a) (m.contents b) with
  | error failure => rfl
  | ok outcome => cases outcome <;> rfl

lemma jumpIf_of_lt (condition : Flags → Bool) {a : UInt8} (ha : a.toNat < registerCount) :
    jumpIf condition a m =
      .ok (if condition m.flags then .jump (m.contents a).toNat else .next) m := by
  rw [jumpIf, bind_of_ok _ (readOperand_of_lt m ha)]
  rfl

lemma call_of_lt {a : UInt8} (ha : a.toNat < registerCount) :
    call a m = match m.ram.accessFault? (cellsBelow m.registers.stackPointer 1) with
      | none =>
        .ok (.jump (m.contents a).toNat) (m.pushed (UInt8.ofNat (m.pc + Opcode.call.length)))
      | some fault => .error fault m := by
  rw [call, bind_of_ok _ (readOperand_of_lt m ha), get_bind_apply, bind_apply, push_apply,
    cellsBelow_succ, cellsBelow_zero, Ram.accessFault?_cons]
  by_cases h : (m.registers.stackPointer - 1).toNat < m.ram.size
  · rw [if_pos h, if_pos h]
    rfl
  · rw [if_neg h, if_neg h]

lemma raiseInterrupt_of_lt {a : UInt8} (ha : a.toNat < registerCount) :
    raiseInterrupt a m =
      if (m.contents a).toNat < interruptLines then .ok .next (m.raised (m.contents a))
      else .error (.invalidInterrupt (m.contents a) m.pc) m := by
  rw [raiseInterrupt, bind_of_ok _ (operand_of_lt m ha), bind_of_ok _ (readRegister_apply ..),
    ← contents_of_lt ha]
  by_cases h : (m.contents a).toNat < interruptLines
  · rw [if_pos h, if_pos h]
    rfl
  · rw [if_neg h, if_neg h]
    rfl

lemma printRegister_of_lt {a : UInt8} (ha : a.toNat < registerCount) :
    printRegister a m = match (m.output.print (m.contents a)).2 with
      | .ok () => .ok .next (m.printed (m.contents a))
      | .error failure => .error (.output failure m.pc) (m.printed (m.contents a)) := by
  rw [printRegister, bind_of_ok _ (readOperand_of_lt m ha), bind_of_ok _ (print_apply ..)]
  cases (m.output.print (m.contents a)).2 <;> rfl

lemma loadImmediate_of_lt {a : UInt8} (v : UInt8) (ha : a.toNat < registerCount) :
    loadImmediate a v m = .ok .next (m.assign a v) := by
  rw [loadImmediate, bind_of_ok _ (operand_of_lt m ha), assign_of_lt ha]
  rfl

/-- What an instruction does whose register operands are fine. -/
lemma execute_of_operands {i : Instruction} (h : i.badOperand? = none) :
    execute i m = match i.executionFault? m with
      | none => .ok (i.flow m) (i.effect m)
      | some fault => .error fault (i.broken m) := by
  obtain ⟨op, a, b⟩ := i
  cases op with
  | hlt => rfl
  | iret => exact returnFromInterrupt_apply m
  | prn =>
    refine (printRegister_of_lt m (lt_of_find?_bad_single h)).trans ?_
    simp only [Instruction.executionFault?, Instruction.broken, h]
    cases (m.output.print (m.contents a)).2 <;> rfl
  | call => exact call_of_lt m (lt_of_find?_bad_single h)
  | int =>
    refine (raiseInterrupt_of_lt m (lt_of_find?_bad_single h)).trans ?_
    simp only [Instruction.executionFault?]
    by_cases hn : (m.contents a).toNat < interruptLines
    · rw [if_pos hn, if_pos hn]
      rfl
    · rw [if_neg hn, if_neg hn]
      rfl
  | jeq => exact jumpIf_of_lt m (fun f => f.equal) (lt_of_find?_bad_single h)
  | jne =>
    refine (jumpIf_of_lt m (fun f => !f.equal) (lt_of_find?_bad_single h)).trans ?_
    simp only [Instruction.executionFault?, Instruction.flow, Instruction.effect]
    cases m.flags.equal <;> rfl
  | jmp => exact jumpIf_of_lt m (fun _ => true) (lt_of_find?_bad_single h)
  | inc => exact unary_of_lt m .inc (lt_of_find?_bad_single h)
  | dec => exact unary_of_lt m .dec (lt_of_find?_bad_single h)
  | ldi => exact loadImmediate_of_lt m b (lt_of_find?_bad_single h)
  | div =>
    obtain ⟨ha, hb⟩ := lt_of_find?_bad_pair h
    refine (binary_of_lt m .div ha hb).trans ?_
    simp only [Instruction.executionFault?, Alu.execute, Alu.arithmetic]
    by_cases hz : m.contents b = 0
    · rw [if_pos hz, if_pos hz]
      rfl
    · rw [if_neg hz, if_neg hz]
      rfl
  | cmp | add | mul | and =>
    obtain ⟨ha, hb⟩ := lt_of_find?_bad_pair h
    exact binary_of_lt m _ ha hb

/-- **The whole of `execute`.**  An instruction faults on its operands, faults on the state, or
has its flow and its effect. -/
lemma execute_apply (i : Instruction) :
    execute i m = match i.fault? m with
      | none => .ok (i.flow m) (i.effect m)
      | some fault => .error fault (i.broken m) := by
  rw [Instruction.fault?]
  cases h : i.badOperand? with
  | none => exact execute_of_operands m h
  | some x =>
    have hbroken : i.broken m = m := broken_of_badOperand m h
    simp only [Option.map_some, Option.some_or, hbroken]
    exact execute_of_badOperand m h

end Machine

namespace Instruction

/-! ## What instructions ask for -/

variable {m : Machine} {a b : UInt8}

lemma print_of_executionFault? (h : executionFault? ⟨.prn, a, b⟩ m = none) :
    (m.output.print (m.contents a)).2 = .ok () := by
  simp only [executionFault?] at h
  cases hprint : (m.output.print (m.contents a)).2 with
  | ok done => rfl
  | error failure =>
    rw [hprint] at h
    cases h

lemma number_of_executionFault? (h : executionFault? ⟨.int, a, b⟩ m = none) :
    (m.contents a).toNat < interruptLines := by
  simp only [executionFault?] at h
  by_contra hlarge
  rw [if_neg hlarge] at h
  cases h

lemma cell_of_executionFault? (h : executionFault? ⟨.call, a, b⟩ m = none) :
    (m.registers.stackPointer - 1).toNat < m.ram.size := by
  simp only [executionFault?, Ram.accessFault?_eq_none_iff, cellsBelow_succ] at h
  exact h _ List.mem_cons_self

/-! ## What instructions leave alone -/

variable (i : Instruction) (m : Machine)

@[simp] lemma pc_effect : (i.effect m).pc = m.pc := by
  obtain ⟨op, a, b⟩ := i
  cases op with
  | iret => exact Machine.pc_returned m
  | _ => rfl

@[simp] lemma size_ram_effect : (i.effect m).ram.size = m.ram.size := by
  obtain ⟨op, a, b⟩ := i
  cases op with
  | iret => exact congrArg Ram.size (Machine.ram_returned m)
  | call => exact Machine.size_ram_pushed _ m
  | _ => rfl

@[simp] lemma phase_effect : (i.effect m).phase = m.phase := by
  obtain ⟨op, a, b⟩ := i
  cases op with
  | iret => exact Machine.phase_returned m
  | _ => rfl

@[simp] lemma tracing_effect : (i.effect m).tracing = m.tracing := by
  obtain ⟨op, a, b⟩ := i
  cases op with
  | iret => exact Machine.tracing_returned m
  | _ => rfl

@[simp] lemma statistics_effect : (i.effect m).statistics = m.statistics := by
  obtain ⟨op, a, b⟩ := i
  cases op with
  | iret => exact Machine.statistics_returned m
  | _ => rfl

/-- Only a return enables interrupts, and nothing disables them. -/
lemma interruptsEnabled_effect :
    (i.effect m).interruptsEnabled = (decide (i.opcode = .iret) || m.interruptsEnabled) := by
  obtain ⟨op, a, b⟩ := i
  cases op <;> rfl

@[simp] lemma interruptsEnabled_broken :
    (i.broken m).interruptsEnabled = m.interruptsEnabled := by
  obtain ⟨op, a, b⟩ := i
  cases op with
  | iret => exact Machine.interruptsEnabled_returnBroken m
  | prn =>
    simp only [broken]
    split <;> rfl
  | _ => rfl

@[simp] lemma pc_broken : (i.broken m).pc = m.pc := by
  obtain ⟨op, a, b⟩ := i
  cases op with
  | iret => exact Machine.pc_returnBroken m
  | prn =>
    simp only [broken]
    split <;> rfl
  | _ => rfl

@[simp] lemma ram_broken : (i.broken m).ram = m.ram := by
  obtain ⟨op, a, b⟩ := i
  cases op with
  | iret => exact Machine.ram_returnBroken m
  | prn =>
    simp only [broken]
    split <;> rfl
  | _ => rfl

/-- Only a halt stops a machine. -/
lemma flow_eq_halt_iff : i.flow m = .halt ↔ i.opcode = .hlt := by
  obtain ⟨op, a, b⟩ := i
  cases op with
  | hlt => exact iff_of_true rfl rfl
  | jeq | jne =>
    simp only [flow, reduceCtorEq, iff_false]
    split <;> simp
  | _ => simp [flow]

/-- Every target of a jump is a byte. -/
lemma lt_of_flow_eq_jump {target : Nat} (h : i.flow m = .jump target) : target < 256 := by
  obtain ⟨op, a, b⟩ := i
  have hcontents := (m.contents a).toNat_lt
  have hreturn := m.returnAddress.toNat_lt
  cases op <;> simp only [flow] at h
  case jeq | jne =>
    split at h
    all_goals cases h
    all_goals omega
  all_goals cases h
  all_goals omega

end Instruction

end LS8
