import LS8.Proofs.History

/-!
# Handlers do not nest

Interrupts are disabled from the dispatch of one to the next return.  A tick enables them if it
retires a return and disables them if it only attempts a dispatch, whether the dispatch goes
through or not, and there is nothing else that touches the interrupt enable
(`interruptsEnabled_tick`).  A return may retire in the tick of the dispatch, and it may retire
without any dispatch before it.

It follows what the interrupt enable says about the ticks so far (`interruptsEnabled_eq_false_iff`),
that there is a return between any two dispatches, and that no more handlers have been entered
than returns retired, except for the one that is still open (`entersHandler_le`).  None of this
depends on what the program does to its registers or its stack.
-/

namespace LS8.Machine

variable {m : Machine} {i : Instruction} {j k : Nat}

/-! ## The interrupt enable after a tick -/

lemma interruptsEnabled_stepBroken :
    m.stepBroken.interruptsEnabled = (m.interruptsEnabled && !m.dueLine?.isSome) := by
  rw [stepBroken]
  split
  · exact interruptsEnabled_serviceBroken m
  · rw [Instruction.interruptsEnabled_broken, (m.serviced.agrees_traced _).interruptsEnabled]
    exact interruptsEnabled_serviced m
  · exact interruptsEnabled_serviced m

lemma interruptsEnabled_carriedOut :
    (m.carriedOut i).interruptsEnabled =
      (decide (i.opcode = .iret) || m.interruptsEnabled) := by
  have heffect := Instruction.interruptsEnabled_effect i (m.traced i)
  rw [(m.agrees_traced i).interruptsEnabled] at heffect
  rw [← heffect, carriedOut]
  cases i.flow m <;> rfl

lemma attemptsDispatch_eq (h : m.phase ≠ .halted) : m.attemptsDispatch = m.dueLine?.isSome := by
  rw [attemptsDispatch, isHalted_of_ne h]
  rfl

variable (m) in
/-- A tick enables interrupts if it retires a return, which comes after the dispatch, disables them
if it attempts a dispatch, and else leaves them as they are. -/
lemma interruptsEnabled_tick :
    (m.perform tick).2.interruptsEnabled =
      (m.retires .iret || (m.interruptsEnabled && !m.attemptsDispatch)) := by
  have hbegun := m.agrees_begun
  cases m.outcome with
  | ignored hphase htick =>
    simp [htick, retires, retires?_of_halted hphase, attemptsDispatch, isHalted_of_halted hphase]
  | faulted fault hphase hretires htick =>
    have hbroken := m.begun.interruptsEnabled_stepBroken
    rw [hbegun.interruptsEnabled, hbegun.dueLine?, ← attemptsDispatch_eq hphase] at hbroken
    rw [htick, retires, hretires]
    exact hbroken
  | retired i hphase hretires htick =>
    have hserviced := m.begun.interruptsEnabled_serviced
    rw [hbegun.interruptsEnabled, hbegun.dueLine?, ← attemptsDispatch_eq hphase] at hserviced
    rw [htick, retires, hretires, interruptsEnabled_carriedOut, hserviced]
    rfl

lemma interruptsEnabled_of_attemptsDispatch (h : m.attemptsDispatch = true) :
    m.interruptsEnabled = true := by
  rw [attemptsDispatch, Bool.and_eq_true, Option.isSome_iff_exists] at h
  obtain ⟨-, line, hdue⟩ := h
  exact (dueLine?_eq_some_iff.1 hdue).1

/-- A handler is entered by a dispatch. -/
lemma attemptsDispatch_of_entersHandler (h : m.entersHandler = true) :
    m.attemptsDispatch = true := by
  rw [entersHandler, dispatches, Bool.and_eq_true, Bool.and_eq_true] at h
  rw [attemptsDispatch, Bool.and_eq_true]
  exact ⟨h.1, h.2.1⟩

/-! ## The interrupt enable and the past -/

/-- One of the first ticks attempted a dispatch, and from that tick on none has retired a return. -/
def InHandler (m : Machine) (k : Nat) : Prop :=
  ∃ j < k, (m.afterTicks j).attemptsDispatch = true
    ∧ ∀ i, j ≤ i → i < k → (m.afterTicks i).retires .iret = false

lemma inHandler_succ :
    m.InHandler (k + 1) ↔
      (m.afterTicks k).retires .iret = false
        ∧ ((m.afterTicks k).attemptsDispatch = true ∨ m.InHandler k) := by
  constructor
  · rintro ⟨j, hj, hattempt, hopen⟩
    refine ⟨hopen k (Nat.le_of_lt_succ hj) (Nat.lt_succ_self k), ?_⟩
    rcases Nat.lt_succ_iff_lt_or_eq.1 hj with hlt | rfl
    · exact Or.inr ⟨j, hlt, hattempt, fun i hji hik => hopen i hji (Nat.lt_succ_of_lt hik)⟩
    · exact Or.inl hattempt
  · rintro ⟨hopen, hattempt | ⟨j, hj, hattempt, hearlier⟩⟩
    · refine ⟨k, Nat.lt_succ_self k, hattempt, fun i hki hik => ?_⟩
      obtain rfl : i = k := by omega
      exact hopen
    · refine ⟨j, Nat.lt_succ_of_lt hj, hattempt, fun i hji hik => ?_⟩
      rcases Nat.lt_succ_iff_lt_or_eq.1 hik with hlt | rfl
      · exact hearlier i hji hlt
      · exact hopen

/-- Interrupts are disabled exactly as long as a dispatch has not been answered by a return. -/
lemma interruptsEnabled_eq_false_iff (h : m.interruptsEnabled = true) :
    (m.afterTicks k).interruptsEnabled = false ↔ m.InHandler k := by
  induction k with
  | zero =>
    rw [afterTicks_zero, h]
    simp [InHandler]
  | succ k ih =>
    rw [inHandler_succ, ← ih, afterTicks_succ, interruptsEnabled_tick]
    cases (m.afterTicks k).retires .iret <;> cases (m.afterTicks k).interruptsEnabled <;>
      simp

/-- Between two dispatches there is a return, possibly in the tick of the first. -/
lemma exists_return_between (h : m.interruptsEnabled = true) (hjk : j < k)
    (hj : (m.afterTicks j).attemptsDispatch = true)
    (hk : (m.afterTicks k).attemptsDispatch = true) :
    ∃ r, j ≤ r ∧ r < k ∧ (m.afterTicks r).retires .iret = true := by
  by_contra hnone
  have hopen : m.InHandler k := by
    refine ⟨j, hjk, hj, fun i hji hik => ?_⟩
    by_contra hreturn
    exact hnone ⟨i, hji, hik, by simpa using hreturn⟩
  have hdisabled := (interruptsEnabled_eq_false_iff h).2 hopen
  rw [interruptsEnabled_of_attemptsDispatch hk] at hdisabled
  cases hdisabled

/-! ## Counting handlers and returns -/

/-- Every handler that was entered has been left by a return, except for the last one as long as
interrupts are disabled. -/
lemma entersHandler_le :
    (m.past k).countP entersHandler ≤
      (m.past k).countP (fun p => p.retires .iret)
        + if (m.afterTicks k).interruptsEnabled then 0 else 1 := by
  induction k with
  | zero => simp
  | succ k ih =>
    rw [past_succ, List.countP_append, List.countP_append, List.countP_singleton,
      List.countP_singleton, afterTicks_succ, interruptsEnabled_tick]
    by_cases hattempt : (m.afterTicks k).attemptsDispatch = true
    · -- no other handler is open, since interrupts were enabled
      rw [interruptsEnabled_of_attemptsDispatch hattempt, if_pos rfl] at ih
      rw [hattempt]
      cases (m.afterTicks k).retires .iret <;> cases (m.afterTicks k).entersHandler <;>
        simp <;> omega
    · have hquiet : (m.afterTicks k).entersHandler = false := by
        rw [← Bool.not_eq_true]
        exact fun henters => hattempt (attemptsDispatch_of_entersHandler henters)
      rw [Bool.eq_false_of_not_eq_true hattempt, hquiet]
      cases (m.afterTicks k).retires .iret <;>
        cases henabled : (m.afterTicks k).interruptsEnabled <;>
        rw [henabled] at ih <;> simp at ih ⊢ <;> omega

/-- The counter of handlers is at most their number, since it can only wrap. -/
lemma interruptsServiced_le (h : m.statistics = {}) :
    (m.afterTicks k).statistics.interruptsServiced.toNat ≤ (m.past k).countP entersHandler := by
  rw [(accounts_afterTicks h k).interruptsServiced, UInt64.toNat_ofNat']
  exact Nat.mod_le ..

/-- **Handlers do not nest.**  On every run of a loaded program, interrupts are disabled after some
ticks if and only if one of them attempted a dispatch and no return has retired from that tick on.
Hence a return retires between any two dispatches, the earliest in the tick of the first, and the
counter of dispatches is at most one ahead of the returns, and not ahead of them where interrupts
are enabled. -/
theorem handlers_do_not_nest {program : List UInt8} {c : Config} {output : Output} {s : Simulator}
    (hload : Simulator.load program c output = .ok s) (k : Nat) :
    ((s.machine.afterTicks k).interruptsEnabled = false ↔
        ∃ j < k, (s.machine.afterTicks j).attemptsDispatch = true
          ∧ ∀ i, j ≤ i → i < k → (s.machine.afterTicks i).retires .iret = false)
      ∧ (∀ j < k, (s.machine.afterTicks j).attemptsDispatch = true →
          (s.machine.afterTicks k).attemptsDispatch = true →
          ∃ r, j ≤ r ∧ r < k ∧ (s.machine.afterTicks r).retires .iret = true)
      ∧ (s.machine.afterTicks k).statistics.interruptsServiced.toNat ≤
          (s.machine.past k).countP (fun p => p.retires .iret) + 1
      ∧ ((s.machine.afterTicks k).interruptsEnabled = true →
          (s.machine.afterTicks k).statistics.interruptsServiced.toNat ≤
            (s.machine.past k).countP fun p => p.retires .iret) := by
  obtain ⟨-, -, rfl⟩ := Simulator.load_eq_ok_iff.1 hload
  have henabled : (loaded program c output).interruptsEnabled = true := rfl
  have hserviced := interruptsServiced_le (m := loaded program c output) (k := k) rfl
  have hentered := entersHandler_le (m := loaded program c output) (k := k)
  refine ⟨interruptsEnabled_eq_false_iff henabled, ?_, ?_, ?_⟩
  · intro j hjk hj hk
    exact exists_return_between henabled hjk hj hk
  · calc ((loaded program c output).afterTicks k).statistics.interruptsServiced.toNat
        ≤ _ := hserviced
      _ ≤ _ := hentered
      _ ≤ _ := by
        apply Nat.add_le_add_left
        split <;> decide
  · intro hstill
    rw [hstill, if_pos rfl, Nat.add_zero] at hentered
    exact hserviced.trans hentered

/-- A program that unmasks and raises line 0.  The handler at address 7 raises the line again before
it returns. -/
def raisingHandler : List UInt8 :=
  [0x99, 5, 1, 0x99, 6, 1, 0x01, 0x99, 6, 1, 0x0B] ++ List.replicate 237 0 ++ [7]

/-- The line that the handler raises waits for the return, and is lost with it. -/
theorem handlers_do_not_nest_raisingHandler :
    ∃ s, Simulator.load raisingHandler {} .unlimited = .ok s
      ∧ (s.machine.afterTicks 3).registers.pending = 1
      ∧ (s.machine.afterTicks 3).interruptsEnabled = false
      ∧ (s.machine.afterTicks 4).interruptsEnabled = true
      ∧ (s.machine.afterTicks 4).statistics.interruptsServiced = 1
      ∧ (s.machine.past 4).countP (fun p => p.retires .iret) = 1 := by
  obtain ⟨s, hload, hmachine⟩ : ∃ s, Simulator.load raisingHandler {} .unlimited = .ok s
      ∧ s.machine = loaded raisingHandler {} .unlimited :=
    ⟨_, Simulator.load_eq_ok_iff.2 ⟨(Config.validate_eq_ok_iff _).1 rfl, by decide +kernel, rfl⟩,
      rfl⟩
  have hattempt : (s.machine.afterTicks 2).attemptsDispatch = true := by
    rw [hmachine]
    decide +kernel
  have hopen : (s.machine.afterTicks 2).retires .iret = false := by
    rw [hmachine]
    decide +kernel
  have hreturn : (s.machine.afterTicks 3).retires .iret = true := by
    rw [hmachine]
    decide +kernel
  refine ⟨s, hload, ?_, ?_, ?_, ?_, ?_⟩
  · rw [hmachine]
    decide +kernel
  · refine (handlers_do_not_nest hload 3).1.2 ⟨2, by decide, hattempt, fun i h2i hi3 => ?_⟩
    obtain rfl : i = 2 := by omega
    exact hopen
  · rw [← Bool.not_eq_false, (handlers_do_not_nest hload 4).1]
    rintro ⟨j, hj, -, hnone⟩
    have hclosed := hnone 3 (by omega) (by decide)
    exact Bool.noConfusion (hreturn.symm.trans hclosed)
  · rw [hmachine]
    decide +kernel
  · rw [hmachine]
    decide +kernel

end LS8.Machine
