import LS8.Proofs.Reached
import LS8.Proofs.Transparency

/-!
# Where an interrupted program goes on

A dispatch pushes the program counter as a byte.  The program counter of a reached machine is at
most 256, so the byte is the program counter itself, with one exception: 256, the end of a memory
that fills the whole address space, where an instruction in the last cells leaves the program
counter.  There the byte is 0.  A program that would have faulted at its next fetch is started
again from its first instruction instead, if an interrupt is due at that very tick.

`dispatch_leadsTo_iff` is the exact condition, and `spentProgram` is a program that gets there.
-/

namespace LS8

namespace Machine

/-- The frame that a dispatch in `before` left in `entered` leads to an address: the byte pushed
first is that number, and a return over the untouched frame goes on there. -/
structure LeadsTo (address : Nat) (before entered : Machine) : Prop where
  saved : ∃ ret, entered.ram.cell? (before.registers.stackPointer - 1).toNat = some ret
    ∧ ret.toNat = address
  resumes : ∀ after : Machine,
    after.registers.stackPointer = entered.registers.stackPointer →
    (∀ cell ∈ cellsFrom entered.registers.stackPointer 9,
      after.ram.cell? cell = entered.ram.cell? cell) →
    (after.perform returnFromInterrupt).1 = .ok (.jump address)

lemma LeadsTo.unique {address other : Nat} {before entered : Machine}
    (h : LeadsTo address before entered) (h' : LeadsTo other before entered) :
    address = other := by
  obtain ⟨ret, hret, rfl⟩ := h.saved
  obtain ⟨ret', hret', rfl⟩ := h'.saved
  rw [hret] at hret'
  cases hret'
  rfl

/-- The frame that a tick pushes leads to the low byte of the program counter. -/
lemma leadsTo_low_byte {m entered : Machine} (hdue : m.dueLine? ≠ none)
    (hservice : m.begun.perform serviceInterrupts = (.ok (), entered)) :
    LeadsTo (m.pc % 256) m entered := by
  have hbegun := m.agrees_begun
  have hlow : (UInt8.ofNat m.begun.pc).toNat = m.pc % 256 := by
    rw [hbegun.pc]
    exact UInt8.toNat_ofNat'
  rw [← hbegun.dueLine?] at hdue
  obtain ⟨line, hline⟩ := Option.ne_none_iff_exists'.1 hdue
  obtain ⟨hfault, rfl⟩ := dispatched_of_perform hline hservice
  refine ⟨⟨UInt8.ofNat m.begun.pc, ?_, hlow⟩, ?_⟩
  · have hcell := cell?_dispatched_frame hfault 0 (by decide)
    rw [frame_eq] at hcell
    rw [← hbegun.registers]
    exact hcell
  · intro after hsp hframe
    have hover : OverFrame line m.begun after := ⟨hfault, hsp, hframe⟩
    rw [perform_of_ok hover.returnFromInterrupt_apply, hlow]

/-- **A dispatch forgets one address.**  On every run, the frame that a dispatch pushes leads back
to where the program was interrupted, unless that is address 256: from there the program goes on
at address 0.  Only a memory that fills the address space has room for a program that gets there. -/
theorem dispatch_leadsTo_iff {program : List UInt8} {c : Config} {output : Output}
    {m entered : Machine} (reached : Reached program c output m) (hdue : m.dueLine? ≠ none)
    (hservice : m.begun.perform serviceInterrupts = (.ok (), entered)) :
    (LeadsTo m.pc m entered ↔ m.pc ≠ 256)
      ∧ (m.pc = 256 → LeadsTo 0 m entered ∧ c.ramSize = 256) := by
  have hleads := leadsTo_low_byte hdue hservice
  have hpc := reached.pc_le
  have hsize := reached.size_ram_le
  refine ⟨⟨?_, ?_⟩, ?_⟩
  · intro hplace h256
    have hsame := hleads.unique hplace
    omega
  · intro hne
    rw [Nat.mod_eq_of_lt (by omega)] at hleads
    exact hleads
  · intro h256
    rw [h256] at hleads
    refine ⟨hleads, ?_⟩
    rw [← reached.size_ram]
    omega

/-- A program that unmasks line 0, raises it and is interrupted at address 6. -/
def raisingProgram : List UInt8 := [0x99, 5, 1, 0x99, 6, 1]

def raisingMachine : Machine :=
  afterTicks 2 (loaded raisingProgram {} .unlimited)

theorem dispatch_leadsTo_iff_raising :
    ∃ entered, raisingMachine.begun.perform serviceInterrupts = (.ok (), entered)
      ∧ LeadsTo 6 raisingMachine entered := by
  have hreached : Reached raisingProgram {} .unlimited raisingMachine :=
    (Reached.loaded ((Config.validate_eq_ok_iff _).1 rfl) (by decide)).afterTicks 2
  have hpc : raisingMachine.pc = 6 := by decide +kernel
  have hdue : raisingMachine.dueLine? ≠ none := by decide +kernel
  have hquiet : raisingMachine.begun.dispatchFault? = none := by decide +kernel
  have hservice := perform_serviceInterrupts hquiet
  have hleads := (dispatch_leadsTo_iff hreached hdue hservice).1.2 (by rw [hpc]; decide)
  rw [hpc] at hleads
  exact ⟨_, hservice, hleads⟩

/-! ## A program that is sent back to its start -/

/-- A program whose last instruction fills the last three cells and raises an interrupt.  It gets
there by a jump, with line 0 unmasked; the handler at `0x11` returns at once.  A program that
finds line 0 unmasked when it begins halts. -/
def spentProgram : List UInt8 :=
  [0xA0, 5, 1, 0x99, 2, 16, 0x52, 2, 0x99, 5, 1, 0x99, 0, 253, 0x54, 0, 0x01, 0x0B]
    ++ List.replicate 230 0 ++ [0x11] ++ List.replicate 4 0 ++ [0x99, 6, 1]

/-- The machine after the last instruction. -/
def spentMachine : Machine :=
  afterTicks 7 (loaded spentProgram {} .unlimited)

/-- The program has run past the last cell with an interrupt due.  The next tick does not fault,
and it sends the program back to address 0. -/
theorem dispatch_forgets_the_end :
    Reached spentProgram {} .unlimited spentMachine
      ∧ spentMachine.pc = 256
      ∧ spentMachine.dueLine? = some 0
      ∧ (∃ entered, spentMachine.begun.perform serviceInterrupts = (.ok (), entered)
          ∧ LeadsTo 0 spentMachine entered ∧ ¬ LeadsTo spentMachine.pc spentMachine entered)
      ∧ (spentMachine.perform tick).1 = .ok ()
      ∧ (spentMachine.perform tick).2.pc = 0 := by
  have hreached : Reached spentProgram {} .unlimited spentMachine :=
    (Reached.loaded ((Config.validate_eq_ok_iff _).1 rfl) (by decide +kernel)).afterTicks 7
  have hpc : spentMachine.pc = 256 := by decide +kernel
  have hdue : spentMachine.dueLine? = some 0 := by decide +kernel
  have hrunning : spentMachine.phase ≠ .halted := by decide +kernel
  have hfault : spentMachine.stepFault? = none := by decide +kernel
  have hquiet : spentMachine.begun.dispatchFault? = none :=
    (stepFault?_eq_none_iff.1 (by rw [stepFault?_begun, hfault])).1
  have hservice := perform_serviceInterrupts hquiet
  have hleads := leadsTo_low_byte (by simp [hdue]) hservice
  rw [hpc] at hleads
  refine ⟨hreached, hpc, hdue, ⟨_, hservice, hleads, ?_⟩, ?_, by decide +kernel⟩
  · intro hplace
    have hsame := hleads.unique hplace
    rw [hpc] at hsame
    omega
  · rw [perform_tick_of_none hrunning hfault]

end Machine

end LS8
