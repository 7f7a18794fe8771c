import LS8.Proofs.Execute

/-!
# Machines that agree

Two machines agree if they have the same registers, program counter, flags, memory and interrupt
enable.  That is all that a dispatch or an instruction reads, apart from the output, so agreeing
machines dispatch the same interrupts and agree afterwards, and an instruction faults and flows on
one as it does on the other.  Phase, statistics, journal and the trace setting are free.
-/

namespace LS8.Machine

/-- The machines are the same as far as a program can tell. -/
structure Agrees (m m' : Machine) : Prop where
  registers : m.registers = m'.registers
  pc : m.pc = m'.pc
  flags : m.flags = m'.flags
  ram : m.ram = m'.ram
  interruptsEnabled : m.interruptsEnabled = m'.interruptsEnabled

namespace Agrees

variable {m m' : Machine}

lemma refl (m : Machine) : Agrees m m := ⟨rfl, rfl, rfl, rfl, rfl⟩

lemma trans {m'' : Machine} (h : Agrees m m') (h' : Agrees m' m'') : Agrees m m'' :=
  ⟨h.registers.trans h'.registers, h.pc.trans h'.pc, h.flags.trans h'.flags,
    h.ram.trans h'.ram, h.interruptsEnabled.trans h'.interruptsEnabled⟩

/-! ## Dispatch -/

lemma dueLine? (h : Agrees m m') : m.dueLine? = m'.dueLine? := by
  rw [Machine.dueLine?, Machine.dueLine?, h.interruptsEnabled, h.registers]

lemma frame (h : Agrees m m') : m.frame = m'.frame := by
  rw [frame_eq, frame_eq, h.pc, h.flags, h.registers]

lemma pushed (h : Agrees m m') (v : UInt8) : Agrees (m.pushed v) (m'.pushed v) := by
  refine ⟨?_, h.pc, h.flags, ?_, h.interruptsEnabled⟩
  · simp only [Machine.pushed, h.registers]
  · simp only [Machine.pushed, h.registers, h.ram]

lemma pushedAll (h : Agrees m m') (vs : List UInt8) :
    Agrees (Machine.pushedAll vs m) (Machine.pushedAll vs m') := by
  induction vs generalizing m m' with
  | nil =>
    rw [Machine.pushedAll, Machine.pushedAll]
    exact h
  | cons v rest ih =>
    rw [Machine.pushedAll, Machine.pushedAll]
    exact ih (h.pushed v)

lemma acknowledged (h : Agrees m m') (line : Nat) :
    Agrees (m.acknowledged line) (m'.acknowledged line) := by
  refine ⟨?_, h.pc, h.flags, h.ram, rfl⟩
  simp only [Machine.acknowledged, h.registers]

lemma dispatched (h : Agrees m m') (line : Nat) :
    Agrees (m.dispatched line) (m'.dispatched line) := by
  have hsaved := (h.acknowledged line).pushedAll (m.acknowledged line).frame
  rw [(h.acknowledged line).frame] at hsaved
  refine ⟨?_, ?_, ?_, ?_, ?_⟩
  · rw [registers_dispatched, registers_dispatched, h.registers]
  · simp only [Machine.dispatched, (h.acknowledged line).frame, hsaved.ram]
  · rw [flags_dispatched, flags_dispatched, h.flags]
  · simp only [Machine.dispatched, (h.acknowledged line).frame, hsaved.ram]
  · rw [interruptsEnabled_dispatched, interruptsEnabled_dispatched]

lemma serviced (h : Agrees m m') : Agrees m.serviced m'.serviced := by
  rw [Machine.serviced, Machine.serviced, h.dueLine?]
  cases m'.dueLine? with
  | none => exact h
  | some line => exact h.dispatched line

lemma dispatchBroken (h : Agrees m m') (line : Nat) :
    Agrees (m.dispatchBroken line) (m'.dispatchBroken line) := by
  rw [Machine.dispatchBroken, Machine.dispatchBroken, h.ram, h.registers,
    (h.acknowledged line).frame]
  exact (h.acknowledged line).pushedAll _

lemma serviceBroken (h : Agrees m m') : Agrees m.serviceBroken m'.serviceBroken := by
  rw [Machine.serviceBroken, Machine.serviceBroken, h.dueLine?]
  cases m'.dueLine? with
  | none => exact h
  | some line => exact h.dispatchBroken line

lemma dispatchFault? (h : Agrees m m') : m.dispatchFault? = m'.dispatchFault? := by
  simp only [Machine.dispatchFault?, dispatchCells, h.dueLine?, h.ram, h.registers]

/-! ## Instructions -/

lemma contents (h : Agrees m m') (b : UInt8) : m.contents b = m'.contents b := by
  rw [Machine.contents, Machine.contents, h.registers]

lemma returnAddress (h : Agrees m m') : m.returnAddress = m'.returnAddress := by
  rw [returnAddress_eq, returnAddress_eq, h.ram, h.registers]

lemma flow (h : Agrees m m') (i : Instruction) : i.flow m = i.flow m' := by
  simp only [Instruction.flow, h.contents, h.returnAddress, h.flags]

/-- The fault of an instruction depends on the output as well, since it may not take more. -/
lemma fault? (h : Agrees m m') (houtput : m.output = m'.output) (i : Instruction) :
    i.fault? m = i.fault? m' := by
  simp only [Instruction.fault?, Instruction.executionFault?, h.contents, h.ram, h.registers,
    h.pc, houtput]

end Agrees

end LS8.Machine
