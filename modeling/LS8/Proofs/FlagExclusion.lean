import LS8.Proofs.History

/-!
# Exclusive condition flags

A comparison leaves exactly one of the three condition flags set.  One other instruction writes
them: a return from an interrupt takes them from the three low bits of the byte that it pops,
whatever they are, unless it faults before it comes to that byte.  So the flags exclude each other
for as long as no return pops more than one of those bits, and a program that lays out the stack for
its return itself can have any of them (`forgedReturn`).
-/

namespace LS8

namespace Flags

/-- How many of the flags are set. -/
def raised (f : Flags) : Nat :=
  [f.equal, f.greater, f.less].count true

/-- Exactly one flag is set after a comparison. -/
lemma raised_compare (a b : UInt8) : (compare a b).raised = 1 := by
  rcases Nat.lt_trichotomy a.toNat b.toNat with hlt | heq | hgt
  · have hne : a ≠ b := fun h => Nat.ne_of_lt hlt (congrArg UInt8.toNat h)
    have hle : ¬ b < a := Nat.lt_asymm hlt
    have hlt' : a < b := hlt
    simp [compare, raised, hne, hle, hlt']
  · obtain rfl : a = b := UInt8.toNat.inj heq
    simp [compare, raised]
  · have hne : a ≠ b := fun h => Nat.ne_of_gt hgt (congrArg UInt8.toNat h)
    have hle : ¬ a < b := Nat.lt_asymm hgt
    have hgt' : b < a := hgt
    simp [compare, raised, hne, hle, hgt']

end Flags

namespace Machine

variable {m m' : Machine} {i : Instruction}

variable (m) in
/-- The flags that a return would pop. -/
def poppedFlags : Flags :=
  Flags.ofBits (m.ram.byte (m.registers.stackPointer + UInt8.ofNat 7).toNat)

variable (m) in
/-- The instruction that the next tick comes to, whether or not it faults. -/
def executes? : Option Instruction :=
  if m.isHalted then none
  else
    match (m.perform serviceInterrupts).1 with
    | .ok () => (m.entered.perform decode).1.toOption
    | .error _ => none

variable (m) in
/-- The next tick comes to an instruction with some opcode. -/
def executes (op : Opcode) : Bool :=
  m.executes?.any fun i => decide (i.opcode = op)

variable (m) in
/-- The next tick comes to a return that finds the cell of the flags and those before it.  It may
still fault at the cell of the address, the only one that is left. -/
def popsFlags : Bool :=
  m.executes .iret
    && (m.entered.ram.accessFault? (cellsFrom m.entered.registers.stackPointer 8)).isNone

lemma popsFlags_eq_true_iff :
    m.popsFlags = true ↔ m.executes .iret = true
      ∧ m.entered.ram.accessFault? (cellsFrom m.entered.registers.stackPointer 8) = none := by
  rw [popsFlags, Bool.and_eq_true, Option.isNone_iff_eq_none]

lemma Agrees.poppedFlags (h : Agrees m m') : m.poppedFlags = m'.poppedFlags := by
  rw [Machine.poppedFlags, Machine.poppedFlags, h.ram, h.registers]

/-! ## The flags in the parts of a tick -/

variable (m) in
lemma flags_serviced : m.serviced.flags = m.flags := by
  rw [serviced]
  cases m.dueLine? with
  | none => rfl
  | some line => exact flags_dispatched line m

lemma flags_serviceBroken : m.serviceBroken.flags = m.flags := by
  rw [serviceBroken]
  cases m.dueLine? with
  | none => rfl
  | some line => exact flags_pushedAll ..

variable (m) in
lemma flags_entered : m.entered.flags = m.flags := by
  cases hdispatch : m.dispatchFault? with
  | some fault =>
    rw [entered_of_some hdispatch]
    exact flags_serviceBroken
  | none =>
    rw [entered_of_none m hdispatch]
    exact m.flags_serviced

/-- A return that faults has popped the flags, with all before them, or has not come to them. -/
lemma flags_returnBroken :
    m.returnBroken.flags = m.flags
      ∨ m.ram.accessFault? (cellsFrom m.registers.stackPointer 8) = none
        ∧ m.returnBroken.flags = m.poppedFlags := by
  rw [returnBroken]
  split
  · rename_i height
    refine Or.inr ⟨(Ram.accessFault?_eq_none_iff ..).2 fun address hmem => ?_, flags_returned m⟩
    rw [← height] at hmem
    exact Ram.lt_of_mem_cellsFrom_reach hmem
  · exact Or.inl (flags_restored ..)

end Machine

namespace Instruction

variable {i : Instruction} {m m' : Machine}

/-- The flags after an instruction that does not fault. -/
def flags (i : Instruction) (m : Machine) : Flags :=
  match i.opcode with
  | .cmp => Flags.compare (m.contents i.a) (m.contents i.b)
  | .iret => m.poppedFlags
  | _ => m.flags

lemma flags_effect : (i.effect m).flags = i.flags m := by
  obtain ⟨op, a, b⟩ := i
  cases op with
  | iret => exact Machine.flags_returned m
  | _ => rfl

lemma flags_congr (h : Machine.Agrees m m') : i.flags m = i.flags m' := by
  obtain ⟨op, a, b⟩ := i
  cases op <;> simp only [flags, h.contents, h.poppedFlags, h.flags]

end Instruction

namespace Machine

variable {m : Machine} {i : Instruction}

/-! ## The flags after a tick -/

lemma exists_of_retires {op : Opcode} (h : m.retires op = true) :
    ∃ i, m.retires? = some i ∧ i.opcode = op := by
  simpa [retires, Option.any_eq_true] using h

lemma flags_carriedOut (i : Instruction) : (m.carriedOut i).flags = i.flags m := by
  rw [← Instruction.flags_congr (m.agrees_traced i), ← Instruction.flags_effect, carriedOut]
  cases i.flow m <;> rfl

/-- A tick that retires an instruction has the flags of the instruction. -/
lemma flags_tick_of_retires? (h : m.retires? = some i) :
    (m.perform tick).2.flags = i.flags m.entered := by
  rw [perform_tick_of_retires? h, flags_carriedOut,
    Instruction.flags_congr (agrees_entered_of_retires? h)]

lemma executes?_eq_some_iff :
    m.executes? = some i ↔
      m.phase ≠ .halted ∧ m.dispatchFault? = none ∧ (m.entered.perform decode).1 = .ok i := by
  by_cases hphase : m.phase = .halted
  · simp [executes?, isHalted_of_halted hphase, hphase]
  · rw [executes?, isHalted_of_ne hphase, ← perform_serviceInterrupts_eq_ok_iff]
    cases (m.perform serviceInterrupts).1 with
    | error fault => simp
    | ok done =>
      cases (m.entered.perform decode).1 <;> simp [hphase, Except.toOption]

/-- What a tick retires it has come to. -/
lemma executes?_of_retires? (h : m.retires? = some i) : m.executes? = some i := by
  obtain ⟨hphase, hfault, -⟩ := retires?_eq_some_iff.1 h
  exact executes?_eq_some_iff.2
    ⟨hphase, (stepFault?_eq_none_iff.1 hfault).1, decode_of_retires? h⟩

/-- A return that retires has found all its cells, and those up to the flags with them. -/
lemma popsFlags_of_retires (h : m.retires .iret = true) : m.popsFlags = true := by
  obtain ⟨i, hi, hiret⟩ := exists_of_retires h
  have hentered := agrees_entered_of_retires? hi
  have hfault : i.executionFault? m.begun.serviced = none := by
    have hnone := fault?_of_retires? hi
    rw [Instruction.fault?, Option.or_eq_none_iff] at hnone
    exact hnone.2
  have hcells :
      m.entered.ram.accessFault? (cellsFrom m.entered.registers.stackPointer 9) = none := by
    rw [← hentered.ram, ← hentered.registers, ← hfault, Instruction.executionFault?, hiret]
  rw [cellsFrom_concat, Ram.accessFault?_append, Option.or_eq_none_iff] at hcells
  refine popsFlags_eq_true_iff.2 ⟨?_, hcells.1⟩
  rw [executes, executes?_of_retires? hi, Option.any_some, decide_eq_true hiret]

/-- A step that faults keeps the flags, or has come to a return that has popped them. -/
lemma flags_stepBroken (hphase : m.phase ≠ .halted) :
    m.stepBroken.flags = m.flags
      ∨ m.popsFlags = true ∧ m.stepBroken.flags = m.entered.poppedFlags := by
  rw [stepBroken]
  cases hdispatch : m.dispatchFault? with
  | some fault => exact Or.inl flags_serviceBroken
  | none =>
    have hentered := entered_of_none m hdispatch
    cases hfetch : m.serviced.fetchFault? with
    | some fault => exact Or.inl m.flags_serviced
    | none =>
      cases hi : m.serviced.instruction? with
      | none => exact Or.inl m.flags_serviced
      | some i =>
        have htraced := m.serviced.agrees_traced i
        show (i.broken (m.serviced.traced i)).flags = m.flags
          ∨ m.popsFlags = true
            ∧ (i.broken (m.serviced.traced i)).flags = m.entered.poppedFlags
        by_cases hiret : i.opcode = .iret
        · have hexecutes : m.executes? = some i := by
            refine executes?_eq_some_iff.2 ⟨hphase, hdispatch, ?_⟩
            rw [hentered]
            exact perform_decode_eq_ok_iff.2 ⟨hfetch, hi⟩
          have hbroken : i.broken (m.serviced.traced i) = (m.serviced.traced i).returnBroken := by
            rw [Instruction.broken, hiret]
          have hflags := htraced.flags.trans m.flags_serviced
          rw [popsFlags_eq_true_iff, hbroken, hentered, ← hflags, ← htraced.poppedFlags,
            ← htraced.ram, ← htraced.registers, executes, hexecutes, Option.any_some,
            decide_eq_true hiret]
          exact flags_returnBroken.imp_right fun hpopped => ⟨⟨rfl, hpopped.1⟩, hpopped.2⟩
        · left
          exact (Instruction.agrees_broken hiret).flags.trans
            (htraced.flags.trans m.flags_serviced)

lemma executes?_begun (hphase : m.phase ≠ .halted) : m.begun.executes? = m.executes? := by
  have hbegun := m.agrees_begun
  have hphase' : m.begun.phase ≠ .halted := by
    rw [phase_begun hphase]
    decide
  refine Option.ext fun i => ?_
  simp only [executes?_eq_some_iff, perform_decode_eq_ok_iff, hbegun.dispatchFault?,
    hbegun.entered.fetchFault?, hbegun.entered.instruction?, ne_eq, hphase, hphase']

lemma popsFlags_begun (hphase : m.phase ≠ .halted) : m.begun.popsFlags = m.popsFlags := by
  have hentered := m.agrees_begun.entered
  rw [popsFlags, popsFlags, executes, executes, executes?_begun hphase, hentered.ram,
    hentered.registers]

/-- A tick keeps the flags, retires a comparison, or comes to a return that pops them. -/
lemma flags_tick :
    (m.perform tick).2.flags = m.flags
      ∨ (m.retires .cmp = true ∧ (m.perform tick).2.flags.raised = 1)
      ∨ (m.popsFlags = true ∧ (m.perform tick).2.flags = m.entered.poppedFlags) := by
  cases m.outcome with
  | ignored hphase htick => exact Or.inl (by rw [htick])
  | faulted fault hphase hretires htick =>
    have hphase' : m.begun.phase ≠ .halted := by
      rw [phase_begun hphase]
      decide
    have hbegun := m.agrees_begun
    rw [htick]
    show m.begun.stepBroken.flags = m.flags ∨ _ ∨ _ ∧ m.begun.stepBroken.flags = _
    rw [← hbegun.flags, ← hbegun.entered.poppedFlags, ← popsFlags_begun hphase]
    exact (flags_stepBroken hphase').imp_right Or.inr
  | retired i hphase hretires htick =>
    rw [flags_tick_of_retires? hretires]
    obtain ⟨op, a, b⟩ := i
    have hop : m.retires op = true := by
      rw [retires, hretires, Option.any_some, decide_eq_true rfl]
    cases op with
    | cmp => exact Or.inr (Or.inl ⟨hop, Flags.raised_compare ..⟩)
    | iret => exact Or.inr (Or.inr ⟨popsFlags_of_retires hop, rfl⟩)
    | _ => exact Or.inl m.flags_entered

/-- One tick keeps the flags exclusive, unless it comes to a return that pops others. -/
lemma raised_tick_le (h : m.flags.raised ≤ 1)
    (hpops : m.popsFlags = true → m.entered.poppedFlags.raised ≤ 1) :
    (m.perform tick).2.flags.raised ≤ 1 := by
  obtain hkept | ⟨-, hcompared⟩ | ⟨hreturns, hpopped⟩ := m.flags_tick
  · rw [hkept]
    exact h
  · exact Nat.le_of_eq hcompared
  · rw [hpopped]
    exact hpops hreturns

lemma raised_afterTicks_le {k : Nat} (h : m.flags.raised ≤ 1)
    (hpops : ∀ j < k, (m.afterTicks j).popsFlags = true →
      (m.afterTicks j).entered.poppedFlags.raised ≤ 1) :
    (m.afterTicks k).flags.raised ≤ 1 := by
  induction k with
  | zero => exact h
  | succ k ih =>
    rw [afterTicks_succ]
    exact raised_tick_le (ih fun j hj => hpops j (Nat.lt_succ_of_lt hj))
      (hpops k (Nat.lt_succ_self k))

/-- **Exclusive flags.**  On every run of a loaded program at most one condition flag is set at a
time, as long as no return has popped the flags from a byte with more than one of the three low bits
set.  Only ticks that retire a comparison or come to a return that pops the flags change them:
exactly one is set after the one, and after the other, if it retires, they are the low bits of the
byte that it popped. -/
theorem flags_stay_exclusive {program : List UInt8} {c : Config} {output : Output} {s : Simulator}
    (hload : Simulator.load program c output = .ok s) :
    (∀ k, (∀ j < k, (s.machine.afterTicks j).popsFlags = true →
          (s.machine.afterTicks j).entered.poppedFlags.raised ≤ 1) →
        (s.machine.afterTicks k).flags.raised ≤ 1)
      ∧ ∀ k,
        ((s.machine.afterTicks k).retires .cmp = false →
            (s.machine.afterTicks k).popsFlags = false →
            (s.machine.afterTicks (k + 1)).flags = (s.machine.afterTicks k).flags)
          ∧ ((s.machine.afterTicks k).retires .cmp = true →
            (s.machine.afterTicks (k + 1)).flags.raised = 1)
          ∧ ((s.machine.afterTicks k).retires .iret = true →
            (s.machine.afterTicks (k + 1)).flags =
              (s.machine.afterTicks k).entered.poppedFlags) := by
  obtain ⟨-, -, rfl⟩ := Simulator.load_eq_ok_iff.1 hload
  set m := loaded program c output
  have hstart : m.flags.raised ≤ 1 := Nat.zero_le 1
  refine ⟨fun k hpops => raised_afterTicks_le hstart hpops, fun k => ?_⟩
  simp only [afterTicks_succ]
  refine ⟨fun hcmp hiret => ?_, fun hcmp => ?_, fun hiret => ?_⟩
  · obtain hkept | ⟨hretires, -⟩ | ⟨hpops, -⟩ := (m.afterTicks k).flags_tick
    · exact hkept
    · rw [hretires] at hcmp
      cases hcmp
    · rw [hpops] at hiret
      cases hiret
  · obtain ⟨⟨op, a, b⟩, hi, rfl⟩ := exists_of_retires hcmp
    rw [flags_tick_of_retires? hi]
    exact Flags.raised_compare ..
  · obtain ⟨⟨op, a, b⟩, hi, rfl⟩ := exists_of_retires hiret
    rw [flags_tick_of_retires? hi]
    rfl

/-- A program that points its stack at the nine bytes behind its return, with the given one for the
flags. -/
def forgedReturn (flags : UInt8) : List UInt8 :=
  [0x99, 7, 4, 0x0B, 0, 0, 0, 0, 0, 0, 0, flags, 0]

/-- A byte with one of the three bits set, and one of the others. -/
theorem flags_stay_exclusive_forgedReturn :
    ∃ s, Simulator.load (forgedReturn 0x0A) {} .unlimited = .ok s
      ∧ (s.machine.afterTicks 2).flags.raised ≤ 1
      ∧ (s.machine.afterTicks 2).flags = ⟨false, true, false⟩ := by
  have hload : Simulator.load (forgedReturn 0x0A) {} .unlimited = .ok _ :=
    Simulator.load_eq_ok_iff.2 ⟨(Config.validate_eq_ok_iff _).1 rfl, by decide, rfl⟩
  obtain ⟨hexclusive, hsteps⟩ := flags_stay_exclusive hload
  have hpops : ∀ j < 2, ((loaded (forgedReturn 0x0A) {} .unlimited).afterTicks j).popsFlags = true →
      ((loaded (forgedReturn 0x0A) {} .unlimited).afterTicks j).entered.poppedFlags.raised ≤ 1 := by
    decide +kernel
  have hiret : ((loaded (forgedReturn 0x0A) {} .unlimited).afterTicks 1).retires .iret = true := by
    decide +kernel
  refine ⟨_, hload, hexclusive 2 hpops, ?_⟩
  rw [(hsteps 1).2.2 hiret]
  decide +kernel

/-- Two flags are set after a return that pops them both. -/
theorem forgedReturn_sets_two_flags :
    ∃ s, Simulator.load (forgedReturn 0x03) {} .unlimited = .ok s
      ∧ (s.machine.afterTicks 2).flags = ⟨true, true, false⟩
      ∧ ¬ (s.machine.afterTicks 2).flags.raised ≤ 1 := by
  refine ⟨_, Simulator.load_eq_ok_iff.2 ⟨(Config.validate_eq_ok_iff _).1 rfl, by decide, rfl⟩, ?_⟩
  decide +kernel

end Machine

end LS8
