import LS8.Proofs.FaultPrecedence

/-!
# A fault changes nothing else

A tick that faults halts the machine at the instruction that faulted.  The tick is counted and the
instruction is not, and the program counter still names it.  Everything that can fail about an
instruction is looked at before the instruction changes anything, so registers, flags, memory and
interrupt enable are those that it found: the ones from before the tick, or from right after the
dispatch if the tick began with one.

Two faults come too late for that.  A dispatch and a return touch one cell after the other, and
what they did before they missed a cell stays done.  The output keeps what it took before it
refused more.
-/

namespace LS8

/-- The address of the faulting instruction, for the faults that record one. -/
def Fault.pc? : Fault → Option Nat
  | memoryOutOfBounds _ _ => none
  | unknownOpcode _ pc | divisionByZero pc | invalidRegister _ pc | invalidInterrupt _ pc
  | output _ pc => some pc

lemma Ram.pc?_accessFault? {ram : Ram} {addresses : List Nat} {fault : Fault}
    (h : ram.accessFault? addresses = some fault) : fault.pc? = none := by
  obtain ⟨address, -, rfl⟩ := Option.map_eq_some_iff.1 h
  rfl

/-! ## Instructions that fault -/

namespace Instruction

variable {i : Instruction} {m : Machine} {fault : Fault}

lemma pc?_executionFault? {p : Nat} (h : i.executionFault? m = some fault)
    (hp : fault.pc? = some p) : p = m.pc := by
  obtain ⟨op, a, b⟩ := i
  cases op with
  | call | iret =>
    rw [Ram.pc?_accessFault? h] at hp
    cases hp
  | div | int | prn =>
    simp only [executionFault?] at h
    split at h
    all_goals cases h
    cases hp
    rfl
  | _ => cases h

lemma pc?_fault? {p : Nat} (h : i.fault? m = some fault) (hp : fault.pc? = some p) :
    p = m.pc := by
  rw [fault?, Option.or_eq_some_iff] at h
  obtain hoperand | ⟨-, hdemand⟩ := h
  · obtain ⟨b, -, rfl⟩ := Option.map_eq_some_iff.1 hoperand
    cases hp
    rfl
  · exact pc?_executionFault? hdemand hp

/-- An instruction that faults has touched nothing but the output, unless it is a return. -/
lemma agrees_broken (h : i.opcode ≠ .iret) : Machine.Agrees (i.broken m) m := by
  obtain ⟨op, a, b⟩ := i
  cases op with
  | iret => exact absurd rfl h
  | prn =>
    simp only [broken]
    split <;> exact ⟨rfl, rfl, rfl, rfl, rfl⟩
  | _ => exact ⟨rfl, rfl, rfl, rfl, rfl⟩

/-- The output has changed only if it is what failed. -/
lemma output_broken (h : i.fault? m = some fault)
    (hfault : ∀ failure p, fault ≠ .output failure p) : (i.broken m).output = m.output := by
  obtain ⟨op, a, b⟩ := i
  cases op with
  | iret => exact Machine.output_returnBroken m
  | prn =>
    simp only [broken]
    split
    · rename_i hoperand
      rw [fault?, hoperand, Option.map_none, Option.none_or] at h
      simp only [executionFault?] at h
      split at h
      · cases h
      · cases h
        exact absurd rfl (hfault _ _)
    · rfl
  | _ => rfl

@[simp] lemma statistics_broken : (i.broken m).statistics = m.statistics := by
  obtain ⟨op, a, b⟩ := i
  cases op with
  | iret => exact Machine.statistics_returnBroken m
  | prn =>
    simp only [broken]
    split <;> rfl
  | _ => rfl

end Instruction

/-! ## Steps that fault -/

namespace Machine

variable {m m' : Machine} {fault : Fault}

lemma entered_of_some (h : m.dispatchFault? = some fault) : m.entered = m.serviceBroken := by
  rw [entered, perform, serviceInterrupts_apply, h]

lemma entered_of_quiet (h : m.dueLine? = none) : m.entered = m := by
  have hdispatch : m.dispatchFault? = none := by rw [dispatchFault?, h, Option.bind_none]
  rw [entered_of_none m hdispatch, serviced_of_none h]

lemma Agrees.entered (h : Agrees m m') : Agrees m.entered m'.entered := by
  cases hdispatch : m'.dispatchFault? with
  | some fault =>
    rw [entered_of_some hdispatch, entered_of_some (h.dispatchFault?.trans hdispatch)]
    exact h.serviceBroken
  | none =>
    rw [entered_of_none _ hdispatch, entered_of_none _ (h.dispatchFault?.trans hdispatch)]
    exact h.serviced

lemma pc?_stepFault? {p : Nat} (h : m.stepFault? = some fault) (hp : fault.pc? = some p) :
    p = m.entered.pc := by
  rw [stepFault?, Option.or_eq_some_iff, Option.or_eq_some_iff] at h
  obtain hdispatch | ⟨hdispatch, hfetch | ⟨-, hinstruction⟩⟩ := h
  · obtain ⟨line, -, hcells⟩ := Option.bind_eq_some_iff.1 hdispatch
    rw [Ram.pc?_accessFault? hcells] at hp
    cases hp
  · rw [fetchFault?] at hfetch
    split at hfetch
    all_goals cases hfetch
    cases hp
  · rw [entered_of_none m hdispatch]
    rw [instructionFault?] at hinstruction
    cases hi : m.serviced.instruction? with
    | none =>
      rw [hi] at hinstruction
      cases hinstruction
      cases hp
      rfl
    | some i =>
      rw [hi] at hinstruction
      exact Instruction.pc?_fault? hinstruction hp

/-- A step that faults stands at the instruction that it came to. -/
lemma pc_stepBroken : m.stepBroken.pc = m.entered.pc := by
  rw [stepBroken]
  cases hdispatch : m.dispatchFault? with
  | some fault => rw [entered_of_some hdispatch]
  | none =>
    rw [entered_of_none m hdispatch]
    cases m.serviced.fetchFault? with
    | some fault => rfl
    | none =>
      cases m.serviced.instruction? with
      | none => rfl
      | some i => exact (Instruction.pc_broken i _).trans (m.serviced.agrees_traced i).pc

lemma agrees_stepBroken (hdispatch : m.dispatchFault? = none)
    (hspare : ∀ i, m.entered.fetchFault? = none → m.entered.instruction? = some i →
      i.opcode ≠ .iret) : Agrees m.stepBroken m.entered := by
  rw [entered_of_none m hdispatch] at hspare ⊢
  rw [stepBroken, hdispatch]
  cases hfetch : m.serviced.fetchFault? with
  | some fault => exact .refl _
  | none =>
    cases hi : m.serviced.instruction? with
    | none => exact .refl _
    | some i =>
      have hbroken : Agrees (i.broken (m.serviced.traced i)) (m.serviced.traced i) :=
        Instruction.agrees_broken (hspare i hfetch hi)
      exact hbroken.trans (m.serviced.agrees_traced i)

variable (m) in
/-- Whether the next tick enters the handler of an interrupt. -/
def dispatches : Bool :=
  m.dueLine?.isSome && m.dispatchFault?.isNone

variable (m) in
lemma statistics_entered :
    m.entered.statistics =
      { m.statistics with
        interruptsServiced :=
          m.statistics.interruptsServiced + if m.dispatches then 1 else 0 } := by
  rw [dispatches]
  cases hdispatch : m.dispatchFault? with
  | some fault => simp [entered_of_some hdispatch]
  | none =>
    rw [entered_of_none m hdispatch, serviced]
    cases m.dueLine? with
    | none => simp
    | some line => simp

variable (m) in
lemma statistics_stepBroken : m.stepBroken.statistics = m.entered.statistics := by
  rw [stepBroken]
  cases hdispatch : m.dispatchFault? with
  | some fault => rw [entered_of_some hdispatch]
  | none =>
    rw [entered_of_none m hdispatch]
    cases m.serviced.fetchFault? with
    | some fault => rfl
    | none =>
      cases m.serviced.instruction? with
      | none => rfl
      | some i => simp

lemma output_stepBroken (h : m.stepFault? = some fault)
    (hfault : ∀ failure p, fault ≠ .output failure p) : m.stepBroken.output = m.output := by
  rw [stepFault?] at h
  rw [stepBroken]
  cases hdispatch : m.dispatchFault? with
  | some fault => exact output_serviceBroken m
  | none =>
    rw [hdispatch, Option.none_or] at h
    cases hfetch : m.serviced.fetchFault? with
    | some fault => exact output_serviced m
    | none =>
      rw [hfetch, Option.none_or, instructionFault?] at h
      cases hi : m.serviced.instruction? with
      | none => exact output_serviced m
      | some i =>
        have hagrees := m.serviced.agrees_traced i
        have htraced : i.fault? (m.serviced.traced i) = some fault := by
          rw [hagrees.fault? (output_traced ..)]
          rw [hi] at h
          exact h
        have hbroken := Instruction.output_broken htraced hfault
        rw [output_traced, output_serviced] at hbroken
        exact hbroken

/-! ## Ticks that fault -/

lemma Agrees.dispatches (h : Agrees m m') : m.dispatches = m'.dispatches := by
  rw [Machine.dispatches, Machine.dispatches, h.dueLine?, h.dispatchFault?]

lemma tick_eq_error (hphase : m.phase ≠ .halted) (hfault : m.perform tick = (.error fault, m')) :
    m.stepFault? = some fault ∧ m' = m.begun.stepBroken.stop fault := by
  rw [perform, tick_apply hphase] at hfault
  cases hstep : m.stepFault? with
  | none =>
    rw [hstep] at hfault
    cases hfault
  | some fault' =>
    rw [hstep] at hfault
    cases hfault
    exact ⟨rfl, rfl⟩

lemma perform_serviceInterrupts_eq_ok_iff :
    (m.perform serviceInterrupts).1 = .ok () ↔ m.dispatchFault? = none := by
  rw [perform, serviceInterrupts_apply]
  cases m.dispatchFault? <;> simp

lemma perform_decode_eq_ok_iff {i : Instruction} :
    (m.perform decode).1 = .ok i ↔ m.fetchFault? = none ∧ m.instruction? = some i := by
  rw [perform, decode_apply]
  cases m.fetchFault? with
  | some fault => simp
  | none => cases m.instruction? <;> simp

/-- **A fault changes nothing else.**  A tick that faults leaves the machine halted at the
instruction that faulted, with the tick counted and no instruction retired.  If the dispatch went
through and the instruction is not a return, the machine is otherwise the one that the dispatch
left, or the one from before the tick if none was due. -/
theorem tick_fault_changes_nothing_else (hphase : m.phase ≠ .halted)
    (hfault : m.perform tick = (.error fault, m')) :
    m'.phase = .halted
      ∧ m'.statistics =
        { m.statistics with
          ticks := m.statistics.ticks + 1
          interruptsServiced := m.entered.statistics.interruptsServiced }
      ∧ (m.dueLine? = none ∨ (m.perform serviceInterrupts).1 ≠ .ok () → m'.pc = m.pc)
      ∧ (∀ line, m.dueLine? = some line → (m.perform serviceInterrupts).1 = .ok () →
          m'.pc = (m.entered.ram.byte (vectorBase + line)).toNat)
      ∧ (∀ p, fault.pc? = some p → m'.pc = p)
      ∧ (m.dueLine? = none → m.entered = m)
      ∧ ((m.perform serviceInterrupts).1 = .ok () →
          (∀ i, (m.entered.perform decode).1 = .ok i → i.opcode ≠ .iret) →
          Agrees m' m.entered)
      ∧ ((∀ failure p, fault ≠ .output failure p) → m'.output = m.output) := by
  obtain ⟨hstep, rfl⟩ := tick_eq_error hphase hfault
  have hbegun := m.agrees_begun
  have hstepBegun : m.begun.stepFault? = some fault := by rw [stepFault?_begun, hstep]
  have hpc : (m.begun.stepBroken.stop fault).pc = m.entered.pc :=
    pc_stepBroken.trans hbegun.entered.pc
  refine ⟨rfl, ?_, ?_, ?_, ?_, entered_of_quiet, ?_, ?_⟩
  · show m.begun.stepBroken.statistics = _
    rw [statistics_stepBroken, statistics_entered, statistics_entered, statistics_begun,
      hbegun.dispatches]
  · rintro (hquiet | hfailed)
    · rw [hpc, entered_of_quiet hquiet]
    · rw [ne_eq, perform_serviceInterrupts_eq_ok_iff, ← ne_eq,
        Option.ne_none_iff_exists'] at hfailed
      obtain ⟨dispatchFault, hdispatch⟩ := hfailed
      rw [hpc, entered_of_some hdispatch, pc_serviceBroken]
  · intro line hdue hok
    rw [perform_serviceInterrupts_eq_ok_iff] at hok
    rw [hpc, entered_of_none m hok, serviced, hdue]
    exact pc_dispatched line m
  · intro p hp
    rw [hpc, pc?_stepFault? hstep hp]
  · intro hok hspare
    rw [perform_serviceInterrupts_eq_ok_iff, ← hbegun.dispatchFault?] at hok
    have hbroken : Agrees m.begun.stepBroken m.begun.entered := by
      refine agrees_stepBroken hok fun i hfetch hi => hspare i ?_
      rw [hbegun.entered.fetchFault?] at hfetch
      rw [hbegun.entered.instruction?] at hi
      exact perform_decode_eq_ok_iff.2 ⟨hfetch, hi⟩
    have hagrees := hbroken.trans hbegun.entered
    exact ⟨hagrees.registers, hagrees.pc, hagrees.flags, hagrees.ram, hagrees.interruptsEnabled⟩
  · intro hother
    show m.begun.stepBroken.output = m.output
    rw [output_stepBroken hstepBegun hother, output_begun]

/-- A machine with an interrupt due on line 0, whose handler divides by zero. -/
def dividingHandler : Machine :=
  { initial (((Ram.zeroed addressSpace).store vectorBase 0x10).store 0x10 0xAB) defaultStackTop
      false .unlimited with
    registers := ((Registers.initial defaultStackTop).write .mask 1).write .status 1 }

/-- The machine stops in the handler, with the frame of the dispatch on its stack. -/
theorem tick_fault_changes_nothing_else_dividingHandler :
    dividingHandler.phase ≠ .halted
      ∧ ∃ m', dividingHandler.perform tick = (.error (.divisionByZero 0x10), m')
        ∧ m'.phase = .halted
        ∧ m'.pc = 0x10
        ∧ m'.registers.stackPointer = 0xEB
        ∧ m'.interruptsEnabled = false
        ∧ m'.statistics = { ticks := 1, interruptsServiced := 1 } := by
  have hphase : dividingHandler.phase ≠ .halted := by decide
  have hstep : dividingHandler.stepFault? = some (.divisionByZero 0x10) := by decide +kernel
  have hfault : dividingHandler.perform tick = (.error (.divisionByZero 0x10),
      dividingHandler.begun.stepBroken.stop (.divisionByZero 0x10)) := by
    rw [perform, tick_apply hphase, hstep]
  have hservice : (dividingHandler.perform serviceInterrupts).1 = .ok () :=
    perform_serviceInterrupts_eq_ok_iff.2 (by decide +kernel)
  have hspare : ∀ i, (dividingHandler.entered.perform decode).1 = .ok i → i.opcode ≠ .iret := by
    intro i hi
    have hdecoded : (dividingHandler.entered.perform decode).1 = .ok ⟨.div, 0, 0⟩ := by
      decide +kernel
    rw [hdecoded] at hi
    cases hi
    decide
  obtain ⟨hhalted, hstatistics, -, -, hplace, -, hagrees, -⟩ :=
    tick_fault_changes_nothing_else hphase hfault
  have hsame := hagrees hservice hspare
  refine ⟨hphase, _, hfault, hhalted, hplace _ rfl, ?_, ?_, ?_⟩
  · rw [hsame.registers]
    decide +kernel
  · rw [hsame.interruptsEnabled]
    decide +kernel
  · rw [hstatistics]
    decide +kernel

end Machine

end LS8
