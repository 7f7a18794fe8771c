import LS8.Proofs.InstructionTable
import LS8.Proofs.Run

/-!
# Counting ticks

A tick of a halted machine is ignored, a tick may end in a fault, and every other tick retires one
instruction.  `Machine.outcome` is this case analysis, with the machine that each kind of tick
leaves behind.

Which kind the next tick is can be read off the machine before it, and so can what the tick does to
the counters.  The counters after a row of ticks are therefore the numbers of ticks of certain
kinds in it (`Accounts`), as far as a word can count.
-/

namespace LS8

namespace Statistics

variable (s : Statistics) (c : InstructionClass)

@[simp] lemma ticks_retire : (s.retire c).ticks = s.ticks := by
  cases c <;> rfl

@[simp] lemma retired_retire : (s.retire c).retired = s.retired + 1 := rfl

@[simp] lemma interruptsServiced_retire :
    (s.retire c).interruptsServiced = s.interruptsServiced := by
  cases c <;> rfl

lemma ofClass_retire (d : InstructionClass) :
    (s.retire c).ofClass d = s.ofClass d + if c = d then 1 else 0 := by
  cases c <;> cases d <;> simp [retire, count, ofClass]

end Statistics

namespace Machine

/-! ## What the next tick does -/

section

variable (m : Machine)

/-- The instruction that the next tick retires, if it retires one. -/
def retires? : Option Instruction :=
  if m.isHalted then none
  else
    match (m.perform tick).1 with
    | .ok () => (m.entered.perform decode).1.toOption
    | .error _ => none

/-- The next tick retires an instruction with some opcode. -/
def retires (op : Opcode) : Bool :=
  m.retires?.any fun i => decide (i.opcode = op)

/-- The next tick retires an instruction of some class. -/
def retiresClass (c : InstructionClass) : Bool :=
  m.retires?.any fun i => decide (i.opcode.instructionClass = c)

/-- The next tick retires an instruction that sends the program counter elsewhere. -/
def takesBranch : Bool :=
  m.retires?.any fun i => i.opcode.jumps m.entered.snapshot

/-- The next tick begins with the dispatch of an interrupt, which may fail. -/
def attemptsDispatch : Bool :=
  !m.isHalted && m.dueLine?.isSome

/-- The next tick enters the handler of an interrupt. -/
def entersHandler : Bool :=
  !m.isHalted && m.dispatches

end

variable {m : Machine} {i : Instruction}

lemma isHalted_of_halted (h : m.phase = .halted) : m.isHalted = true := decide_eq_true h

lemma isHalted_of_ne (h : m.phase ≠ .halted) : m.isHalted = false := decide_eq_false h

lemma retires?_of_halted (h : m.phase = .halted) : m.retires? = none :=
  if_pos (isHalted_of_halted h)

lemma isHalted_of_isSome (h : m.retires?.isSome = true) : m.isHalted = false := by
  by_contra hhalted
  rw [Bool.not_eq_false, isHalted, decide_eq_true_iff] at hhalted
  rw [retires?_of_halted hhalted] at h
  cases h

lemma isHalted_of_any {f : Instruction → Bool} (h : m.retires?.any f = true) :
    m.isHalted = false := by
  refine isHalted_of_isSome ?_
  cases hretires : m.retires? with
  | some i => rfl
  | none =>
    rw [hretires] at h
    cases h

/-- A step that does not fault decodes the instruction that it finds after the dispatch. -/
lemma decode_of_stepFault? (hfault : m.stepFault? = none) (hi : m.serviced.instruction? = some i) :
    (m.entered.perform decode).1 = .ok i := by
  obtain ⟨hdispatch, hfetch, -⟩ := stepFault?_eq_none_iff.1 hfault
  rw [entered_of_none m hdispatch]
  refine perform_decode_eq_ok_iff.2 ⟨?_, hi⟩
  rw [fetchFault?, size_ram_serviced, if_pos hfetch]

lemma retires?_eq_some_iff :
    m.retires? = some i ↔
      m.phase ≠ .halted ∧ m.stepFault? = none ∧ m.serviced.instruction? = some i := by
  by_cases hphase : m.phase = .halted
  · simp [retires?_of_halted hphase, hphase]
  · rw [retires?, isHalted_of_ne hphase, perform, tick_apply hphase]
    cases hfault : m.stepFault? with
    | some fault => simp
    | none =>
      obtain ⟨-, -, j, hj, -⟩ := stepFault?_eq_none_iff.1 hfault
      simp [decode_of_stepFault? hfault hj, hj, hphase, Except.toOption]

lemma decode_of_retires? (h : m.retires? = some i) : (m.entered.perform decode).1 = .ok i := by
  obtain ⟨-, hfault, hi⟩ := retires?_eq_some_iff.1 h
  exact decode_of_stepFault? hfault hi

lemma fault?_of_retires? (h : m.retires? = some i) : i.fault? m.begun.serviced = none := by
  obtain ⟨-, hfault, hi⟩ := retires?_eq_some_iff.1 h
  obtain ⟨-, -, j, hj, hnofault⟩ := stepFault?_eq_none_iff.1 hfault
  obtain rfl : i = j := Option.some_inj.1 (hi.symm.trans hj)
  have houtput : m.begun.serviced.output = m.serviced.output := by
    rw [output_serviced, output_serviced, output_begun]
  exact (m.agrees_begun.serviced.fault? houtput i).trans hnofault

/-- A tick that retires an instruction carries it out where the dispatch has left the machine. -/
lemma perform_tick_of_retires? (h : m.retires? = some i) :
    m.perform tick = (.ok (), m.begun.serviced.carriedOut i) := by
  obtain ⟨hphase, hfault, hi⟩ := retires?_eq_some_iff.1 h
  have hstepped : m.begun.stepped = m.begun.serviced.carriedOut i := by
    rw [stepped, m.agrees_begun.serviced.instruction?, hi]
  rw [perform_tick_of_none hphase hfault, hstepped]

/-- It begins with the dispatch, if one is due, going through. -/
lemma agrees_entered_of_retires? (h : m.retires? = some i) : Agrees m.begun.serviced m.entered := by
  obtain ⟨-, hfault, -⟩ := retires?_eq_some_iff.1 h
  obtain ⟨hdispatch, -⟩ := stepFault?_eq_none_iff.1 hfault
  rw [entered_of_none m hdispatch]
  exact m.agrees_begun.serviced

/-! ## The outcome of a tick -/

/-- What the next tick comes to. -/
inductive Outcome (m : Machine) : Prop
  /-- The machine has halted and stays as it is. -/
  | ignored (hphase : m.phase = .halted) (htick : m.perform tick = (.ok (), m))
  /-- The tick ends in a fault. -/
  | faulted (fault : Fault) (hphase : m.phase ≠ .halted) (hretires : m.retires? = none)
      (htick : m.perform tick = (.error fault, m.begun.stepBroken.stop fault))
  /-- The tick retires an instruction. -/
  | retired (i : Instruction) (hphase : m.phase ≠ .halted) (hretires : m.retires? = some i)
      (htick : m.perform tick = (.ok (), m.begun.serviced.carriedOut i))

variable (m) in
lemma outcome : Outcome m := by
  by_cases hphase : m.phase = .halted
  · exact .ignored hphase (perform_tick_of_halted hphase)
  · cases hfault : m.stepFault? with
    | some fault =>
      refine .faulted fault hphase ?_ ?_
      · rw [Option.eq_none_iff_forall_ne_some]
        intro i hi
        have hnone := (retires?_eq_some_iff.1 hi).2.1
        rw [hfault] at hnone
        cases hnone
      · rw [perform, tick_apply hphase, hfault]
    | none =>
      obtain ⟨-, -, i, hi, -⟩ := stepFault?_eq_none_iff.1 hfault
      have hretires : m.retires? = some i := retires?_eq_some_iff.2 ⟨hphase, hfault, hi⟩
      exact .retired i hphase hretires (perform_tick_of_retires? hretires)

/-! ## Counters -/

/-- The counters before a tick with what it adds before it comes to its instruction. -/
lemma statistics_entered_begun (h : m.phase ≠ .halted) :
    m.begun.entered.statistics =
      { m.statistics with
        ticks := m.statistics.ticks + if m.isHalted then 0 else 1
        interruptsServiced :=
          m.statistics.interruptsServiced + if m.entersHandler then 1 else 0 } := by
  rw [statistics_entered, m.agrees_begun.dispatches, statistics_begun, entersHandler,
    isHalted_of_ne h]
  rfl

lemma statistics_carriedOut_of_retires? (h : m.retires? = some i) :
    (m.begun.serviced.carriedOut i).statistics =
      { m.begun.entered.statistics.retire i.opcode.instructionClass with
        branchesTaken := m.statistics.branchesTaken + if m.takesBranch then 1 else 0 } := by
  obtain ⟨hphase, hfault, -⟩ := retires?_eq_some_iff.1 h
  obtain ⟨hdispatch, -⟩ := stepFault?_eq_none_iff.1 hfault
  have hentered : m.begun.entered = m.begun.serviced :=
    entered_of_none _ (m.agrees_begun.dispatchFault?.trans hdispatch)
  have hjumps : m.takesBranch = i.opcode.jumps m.begun.serviced.snapshot := by
    rw [takesBranch, h, Option.any_some, jumps_eq, jumps_eq, (agrees_entered_of_retires? h).flow]
  have hbranches : m.begun.serviced.statistics.branchesTaken = m.statistics.branchesTaken := by
    rw [← hentered, statistics_entered_begun hphase]
  rw [statistics_carriedOut, hjumps, hbranches, hentered]

variable (m) in
/-- What a tick does to the counters. -/
lemma statistics_tick :
    (m.perform tick).2.statistics =
      let s : Statistics := { m.statistics with
        ticks := m.statistics.ticks + if m.isHalted then 0 else 1
        interruptsServiced :=
          m.statistics.interruptsServiced + if m.entersHandler then 1 else 0 }
      match m.retires? with
      | none => s
      | some i =>
        { s.retire i.opcode.instructionClass with
          branchesTaken := m.statistics.branchesTaken + if m.takesBranch then 1 else 0 } := by
  cases m.outcome with
  | ignored hphase htick =>
    have hhalted := isHalted_of_halted hphase
    rw [htick, retires?_of_halted hphase]
    simp [entersHandler, hhalted]
  | faulted fault hphase hretires htick =>
    rw [htick, hretires, ← statistics_entered_begun hphase]
    exact statistics_stepBroken m.begun
  | retired i hphase hretires htick =>
    rw [htick, hretires, ← statistics_entered_begun hphase]
    exact statistics_carriedOut_of_retires? hretires

/-- The counters after some ticks: each is the number of ticks of a certain kind. -/
structure Accounts (past : List Machine) (s : Statistics) : Prop where
  ticks : s.ticks = UInt64.ofNat (past.countP fun m => !m.isHalted)
  retired : s.retired = UInt64.ofNat (past.countP fun m => m.retires?.isSome)
  ofClass : ∀ c, s.ofClass c = UInt64.ofNat (past.countP fun m => m.retiresClass c)
  branchesTaken : s.branchesTaken = UInt64.ofNat (past.countP takesBranch)
  interruptsServiced : s.interruptsServiced = UInt64.ofNat (past.countP entersHandler)

lemma ofNat_countP_append (p : Machine → Bool) (past : List Machine) (m : Machine) :
    UInt64.ofNat ((past ++ [m]).countP p) =
      UInt64.ofNat (past.countP p) + if p m then 1 else 0 := by
  rw [List.countP_append, List.countP_singleton, UInt64.ofNat_add]
  split <;> rfl

namespace Accounts

variable {past : List Machine}

lemma empty : Accounts [] {} :=
  ⟨rfl, rfl, fun c => by cases c <;> rfl, rfl, rfl⟩

/-- One more tick. -/
lemma tick (h : Accounts past m.statistics) :
    Accounts (past ++ [m]) (m.perform Machine.tick).2.statistics := by
  rw [statistics_tick]
  refine ⟨?_, ?_, fun c => ?_, ?_, ?_⟩
  · rw [ofNat_countP_append, ← h.ticks]
    cases m.retires? <;> cases m.isHalted <;> simp
  · rw [ofNat_countP_append, ← h.retired]
    cases m.retires? <;> simp
  · rw [ofNat_countP_append, ← h.ofClass, retiresClass]
    cases m.retires? with
    | none => cases c <;> simp [Statistics.ofClass]
    | some i =>
      rw [Option.any_some]
      simp only [decide_eq_true_eq]
      rw [← Statistics.ofClass_retire]
      cases i.opcode.instructionClass <;> cases c <;> rfl
  · rw [ofNat_countP_append, ← h.branchesTaken]
    cases hretires : m.retires? with
    | none => simp [takesBranch, hretires]
    | some i => rfl
  · rw [ofNat_countP_append, ← h.interruptsServiced]
    cases m.retires? <;> simp

end Accounts

/-! ## The ticks so far -/

/-- The machines that get the first ticks of some number. -/
def past (k : Nat) (m : Machine) : List Machine :=
  (List.range k).map fun j => m.afterTicks j

@[simp] lemma past_zero : m.past 0 = [] := rfl

lemma past_succ (k : Nat) : m.past (k + 1) = m.past k ++ [m.afterTicks k] := by
  rw [past, List.range_succ, List.map_append]
  rfl

/-- The counters of a machine that began with none. -/
lemma accounts_afterTicks (h : m.statistics = {}) (k : Nat) :
    Accounts (m.past k) (m.afterTicks k).statistics := by
  induction k with
  | zero =>
    rw [past_zero, afterTicks_zero, h]
    exact .empty
  | succ k ih =>
    rw [past_succ, afterTicks_succ]
    exact ih.tick

end Machine

end LS8
