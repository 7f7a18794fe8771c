import LS8.Proofs.Atomicity
import LS8.Proofs.Reached

/-!
# Runs, tick by tick

A run is a number of single ticks.  This file has the machine after some of them (`afterTicks`),
the number of ticks after which a machine is halted for the first time (`HaltsAt`), and what makes
the last of these ticks a halt and not a fault (`ExecutesHalt`).  Before that last tick a run is
the run of the machine some ticks later on what is left of the budget (`runFor_ticks`).
-/

namespace LS8.Machine

variable {m m' : Machine}

/-! ## Single ticks -/

lemma phase_tick_of_error {fault : Fault} (h : (m.perform tick).1 = .error fault) :
    (m.perform tick).2.phase = .halted := by
  by_cases hphase : m.phase = .halted
  · rw [perform, tick_of_halted hphase] at h
    cases h
  · have htick : m.perform tick = (.error fault, (m.perform tick).2) := Prod.ext h rfl
    rw [(tick_eq_error hphase htick).2]
    rfl

lemma tick_ok_of_phase (h : (m.perform tick).2.phase ≠ .halted) :
    (m.perform tick).1 = .ok () := by
  cases hresult : (m.perform tick).1 with
  | ok done => rfl
  | error fault => exact absurd (phase_tick_of_error hresult) h

lemma perform_tick_of_halted (h : m.phase = .halted) : m.perform tick = (.ok (), m) := by
  rw [perform, tick_of_halted h]

/-- The next tick carries out a halt, in the handler of an interrupt that it dispatches first or
without one. -/
def ExecutesHalt (m : Machine) : Prop :=
  (m.perform serviceInterrupts).1 = .ok ()
    ∧ ∃ i, (m.entered.perform decode).1 = .ok i ∧ i.opcode = .hlt

lemma executesHalt_iff :
    m.ExecutesHalt ↔ m.dispatchFault? = none ∧ m.serviced.fetchFault? = none
      ∧ ∃ i, m.serviced.instruction? = some i ∧ i.opcode = .hlt := by
  rw [ExecutesHalt, perform_serviceInterrupts_eq_ok_iff]
  simp only [perform_decode_eq_ok_iff]
  constructor
  · rintro ⟨hdispatch, i, ⟨hfetch, hi⟩, hhlt⟩
    rw [entered_of_none m hdispatch] at hfetch hi
    exact ⟨hdispatch, hfetch, i, hi, hhlt⟩
  · rintro ⟨hdispatch, hfetch, i, hi, hhlt⟩
    rw [entered_of_none m hdispatch]
    exact ⟨hdispatch, i, ⟨hfetch, hi⟩, hhlt⟩

lemma phase_carriedOut (i : Instruction) :
    (m.carriedOut i).phase = if i.opcode = .hlt then .halted else m.phase := by
  rw [carriedOut]
  cases hflow : i.flow m with
  | halt =>
    rw [if_pos ((Instruction.flow_eq_halt_iff i m).1 hflow)]
    rfl
  | next | jump target =>
    have hne : i.opcode ≠ .hlt := by
      rw [ne_eq, ← Instruction.flow_eq_halt_iff i m, hflow]
      simp
    rw [if_neg hne]
    simp [followed, retired]

/-- A tick after which the machine is halted was the tick of a halt, or else it was a fault. -/
lemma tick_ok_iff_executesHalt (hphase : m.phase ≠ .halted)
    (hhalted : (m.perform tick).2.phase = .halted) :
    (m.perform tick).1 = .ok () ↔ m.ExecutesHalt := by
  have hbegun := m.agrees_begun
  rw [executesHalt_iff]
  constructor
  · intro hok
    have htick : m.perform tick = (.ok (), (m.perform tick).2) := Prod.ext hok rfl
    obtain ⟨hstep, hm'⟩ := tick_eq_ok hphase htick
    obtain ⟨hdispatch, hfetch, i, hi, -⟩ := stepFault?_eq_none_iff.1 hstep
    refine ⟨hdispatch, ?_, i, hi, ?_⟩
    · rw [fetchFault?, size_ram_serviced, if_pos hfetch]
    · rw [hm', stepped, hbegun.serviced.instruction?, hi] at hhalted
      by_contra hne
      have hrunning : (m.begun.serviced.carriedOut i).phase = .running := by
        rw [phase_carriedOut, if_neg hne, phase_serviced, phase_begun hphase]
      rw [hrunning] at hhalted
      cases hhalted
  · rintro ⟨hdispatch, hfetch, i, hi, hhlt⟩
    have hstep : m.stepFault? = none := by
      obtain ⟨op, a, b⟩ := i
      obtain rfl : op = .hlt := hhlt
      rw [stepFault?, hdispatch, hfetch, instructionFault?, hi]
      rfl
    rw [perform_tick_of_none hphase hstep]

/-! ## Several ticks -/

@[simp] lemma afterTicks_zero : m.afterTicks 0 = m := rfl

lemma afterTicks_add (j k : Nat) : m.afterTicks (j + k) = (m.afterTicks j).afterTicks k := by
  induction j generalizing m with
  | zero => rw [Nat.zero_add, afterTicks_zero]
  | succ j ih =>
    rw [Nat.add_right_comm]
    exact ih

lemma afterTicks_succ (k : Nat) : m.afterTicks (k + 1) = ((m.afterTicks k).perform tick).2 :=
  afterTicks_add k 1

lemma afterTicks_of_halted (h : m.phase = .halted) (k : Nat) : m.afterTicks k = m := by
  induction k with
  | zero => rfl
  | succ k ih => rw [afterTicks_succ, ih, perform_tick_of_halted h]

lemma started_of_ne_idle (h : m.phase ≠ .idle) : m.started = m := if_neg h

lemma begun_started : m.started.begun = m.begun := by
  by_cases h : m.phase = .idle
  · simp [begun, started, h]
  · rw [started_of_ne_idle h]

lemma phase_started (h : m.phase ≠ .halted) : m.started.phase = .running := phase_begun h

/-- A machine that has been started does what it would have done anyway. -/
lemma tick_started (h : m.phase ≠ .halted) : tick m.started = tick m := by
  have hstarted : m.started.phase ≠ .halted := by
    rw [phase_started h]
    decide
  rw [tick_of_not_halted h, tick_of_not_halted hstarted, begun_started]

lemma phase_stepped : m.stepped.phase = .halted ∨ m.stepped.phase = m.phase := by
  rw [stepped]
  cases m.serviced.instruction? with
  | none => exact Or.inr (phase_serviced m)
  | some i =>
    show (m.serviced.carriedOut i).phase = _ ∨ (m.serviced.carriedOut i).phase = _
    rw [phase_carriedOut, phase_serviced]
    split
    · exact Or.inl rfl
    · exact Or.inr rfl

lemma phase_tick_ne_idle : (m.perform tick).2.phase ≠ .idle := by
  by_cases h : m.phase = .halted
  · rw [perform_tick_of_halted h, h]
    decide
  · rw [perform, tick_apply h]
    cases m.stepFault? with
    | some fault =>
      intro hidle
      cases hidle
    | none =>
      show m.begun.stepped.phase ≠ .idle
      obtain hhalted | hkept := m.begun.phase_stepped
      · rw [hhalted]
        decide
      · rw [hkept, phase_begun h]
        decide

/-- Starting a machine first makes no difference once it has ticked. -/
lemma afterTicks_started (k : Nat) : m.started.afterTicks k = (m.afterTicks k).started := by
  by_cases h : m.phase = .halted
  · have hstarted : m.started = m := started_of_ne_idle (by rw [h]; decide)
    rw [afterTicks_of_halted h, hstarted, afterTicks_of_halted h]
  · cases k with
    | zero => rfl
    | succ k =>
      have htick : m.started.perform tick = m.perform tick := by
        rw [perform, perform, tick_started h]
      have hlater : m.started.afterTicks (k + 1) = m.afterTicks (k + 1) := by
        show (m.started.perform tick).2.afterTicks k = (m.perform tick).2.afterTicks k
        rw [htick]
      rw [hlater, afterTicks_succ, started_of_ne_idle phase_tick_ne_idle]

lemma phase_afterTicks_of_pos {k : Nat} (hk : 0 < k) (h : (m.afterTicks k).phase ≠ .halted) :
    (m.afterTicks k).phase = .running := by
  obtain ⟨j, rfl⟩ := Nat.exists_eq_succ_of_ne_zero (Nat.pos_iff_ne_zero.1 hk)
  have hidle : (m.afterTicks (j + 1)).phase ≠ .idle := by
    rw [afterTicks_succ]
    exact phase_tick_ne_idle
  cases hphase : (m.afterTicks (j + 1)).phase with
  | idle => exact absurd hphase hidle
  | running => rfl
  | halted => exact absurd hphase h

/-! ## Counting ticks -/

lemma ticks_stepped : m.stepped.statistics.ticks = m.statistics.ticks := by
  have hserviced : m.serviced.statistics.ticks = m.statistics.ticks := by
    rw [serviced]
    cases m.dueLine? with
    | none => rfl
    | some line => rw [statistics_dispatched]
  rw [stepped]
  cases m.serviced.instruction? with
  | none => exact hserviced
  | some i =>
    show (m.serviced.carriedOut i).statistics.ticks = _
    rw [← hserviced, carriedOut]
    cases i.flow m.serviced <;> cases hclass : i.opcode.instructionClass <;>
      simp [followed, retired, Statistics.retire, Statistics.count, hclass]

lemma ticks_tick (h : m.phase ≠ .halted) :
    (m.perform tick).2.statistics.ticks = m.statistics.ticks + 1 := by
  rw [perform, tick_apply h]
  cases m.stepFault? with
  | none => exact ticks_stepped
  | some fault =>
    show m.begun.stepBroken.statistics.ticks = _
    rw [statistics_stepBroken, statistics_entered]
    rfl

lemma ticks_afterTicks {k : Nat} (h : ∀ j < k, (m.afterTicks j).phase ≠ .halted) :
    (m.afterTicks k).statistics.ticks = m.statistics.ticks + UInt64.ofNat k := by
  induction k with
  | zero => simp
  | succ k ih =>
    rw [afterTicks_succ, ticks_tick (h k (Nat.lt_succ_self k)),
      ih fun j hj => h j (Nat.lt_succ_of_lt hj), UInt64.add_assoc, UInt64.ofNat_add]
    rfl

/-! ## The first halt -/

/-- The machine is halted after `h` ticks and was not before. -/
def HaltsAt (m : Machine) (h : Nat) : Prop :=
  (m.afterTicks h).phase = .halted ∧ ∀ j < h, (m.afterTicks j).phase ≠ .halted

/-- A machine that is halted after some ticks was halted for the first time after no more. -/
lemma exists_haltsAt {k : Nat} (h : (m.afterTicks k).phase = .halted) : ∃ j ≤ k, m.HaltsAt j := by
  classical
  have hexists : ∃ k, (m.afterTicks k).phase = .halted := ⟨k, h⟩
  exact ⟨Nat.find hexists, Nat.find_min' hexists h, Nat.find_spec hexists,
    fun j hj => Nat.find_min hexists hj⟩

lemma HaltsAt.unique {j k : Nat} (hj : m.HaltsAt j) (hk : m.HaltsAt k) : j = k :=
  Nat.le_antisymm (Nat.not_lt.1 fun hlt => hj.2 k hlt hk.1)
    (Nat.not_lt.1 fun hlt => hk.2 j hlt hj.1)

lemma HaltsAt.pos {h : Nat} (hhalts : m.HaltsAt h) (hphase : m.phase ≠ .halted) : 0 < h := by
  rcases Nat.eq_zero_or_pos h with rfl | hpos
  · exact absurd hhalts.1 hphase
  · exact hpos

lemma phase_started_eq_halted_iff : m.started.phase = .halted ↔ m.phase = .halted := by
  by_cases h : m.phase = .idle
  · simp [started, h]
  · rw [started_of_ne_idle h]

lemma HaltsAt.started {h : Nat} (hhalts : m.HaltsAt h) : m.started.HaltsAt h := by
  simpa only [HaltsAt, afterTicks_started, ne_eq, phase_started_eq_halted_iff] using hhalts

/-! ## Runs -/

lemma run_eq (budget : Nat) : m.run budget = m.started.runFor budget := by
  rw [run, perform, start_apply]

lemma runFor_of_halted (budget : Nat) (h : m.phase = .halted) :
    m.runFor budget = (some (.ok ()), m) := by
  have hhalted : m.isHalted = true := decide_eq_true h
  cases budget <;> simp [runFor, hhalted]

lemma runFor_succ (budget : Nat) (h : m.phase ≠ .halted) :
    m.runFor (budget + 1) = match m.perform tick with
      | (.ok (), m') => m'.runFor budget
      | (.error fault, m') => (some (.error fault), m') := by
  have hhalted : m.isHalted = false := decide_eq_false h
  rw [runFor, hhalted]
  rfl

/-- A run of a machine that is not halted yet is a run of the machine some ticks later. -/
lemma runFor_ticks {k : Nat} (h : ∀ j ≤ k, (m.afterTicks j).phase ≠ .halted) (budget : Nat) :
    m.runFor (k + budget) = (m.afterTicks k).runFor budget := by
  induction k generalizing m with
  | zero => rw [Nat.zero_add, afterTicks_zero]
  | succ k ih =>
    have hnow : m.phase ≠ .halted := h 0 (Nat.zero_le _)
    have hfirst : (m.perform tick).1 = .ok () := tick_ok_of_phase (h 1 (by omega))
    have hlater : ∀ j ≤ k, ((m.perform tick).2.afterTicks j).phase ≠ .halted :=
      fun j hj => h (j + 1) (Nat.succ_le_succ hj)
    have htick : m.perform tick = (.ok (), (m.perform tick).2) := Prod.ext hfirst rfl
    rw [Nat.add_right_comm, runFor_succ _ hnow, htick]
    exact ih hlater

lemma run_started (budget : Nat) : m.started.run budget = m.run budget := by
  have hstarted : m.started.started = m.started := by
    by_cases h : m.phase = .idle
    · simp [started, h]
    · rw [started_of_ne_idle h, started_of_ne_idle h]
  rw [run_eq, run_eq, hstarted]

lemma run_ticks {k : Nat} (h : ∀ j ≤ k, (m.afterTicks j).phase ≠ .halted) (budget : Nat) :
    m.run (k + budget) = (m.afterTicks k).run budget := by
  have hstarted : ∀ j ≤ k, (m.started.afterTicks j).phase ≠ .halted := by
    intro j hj
    rw [afterTicks_started, ne_eq, phase_started_eq_halted_iff]
    exact h j hj
  rw [run_eq, runFor_ticks hstarted, afterTicks_started, ← run_eq]

end LS8.Machine
