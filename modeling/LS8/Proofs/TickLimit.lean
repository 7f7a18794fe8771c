import LS8.Proofs.Lockstep

/-!
# Runs under a tick limit

A simulator with a limit of ticks makes single ticks until the machine has halted or the limit is
used up, and nothing else (`run_is_bounded_ticking`).  The machine is looked at before the limit,
so a halt on the last tick that is allowed is a halt.  Reaching the limit is recorded in the
journal and leaves the machine as it is: another run under the same limit has nothing left to do,
and a run without a limit goes on from there as if there had been none.

The loop counts nothing itself.  It compares the limit with the tick counter of the machine, which
is the number of ticks since the program was loaded.
-/

namespace LS8

namespace Machine

variable {m m' : Machine}

/-- The machine without the record of what it did. -/
def unlogged (m : Machine) : Machine :=
  { m with journal := #[] }

lemma unlogged_started (h : m.phase ≠ .halted) :
    m.started.unlogged = { m with phase := .running }.unlogged := by
  have hphase := phase_started h
  unfold started at hphase ⊢
  split
  · rfl
  · rename_i hidle
    rw [if_neg hidle] at hphase
    rw [← hphase]

/-- The machines are the same up to their journals. -/
def SameUnlogged (m m' : Machine) : Prop :=
  ∃ j, m' = { m with journal := j }

namespace SameUnlogged

lemma unlogged (h : SameUnlogged m m') : m.unlogged = m'.unlogged := by
  obtain ⟨j, rfl⟩ := h
  rfl

lemma count (f : Statistics → Statistics) :
    Lockstep SameUnlogged (fun _ => False) (Machine.count f) := by
  rintro m _ ⟨j, rfl⟩
  exact ⟨rfl, j, rfl⟩

lemma ram ⦃m m' : Machine⦄ (h : SameUnlogged m m') : m.ram = m'.ram := by
  obtain ⟨j, rfl⟩ := h
  rfl

lemma withRam ⦃m m' : Machine⦄ (ram : Ram) (h : SameUnlogged m m') :
    SameUnlogged { m with ram := ram } { m' with ram := ram } := by
  obtain ⟨j, rfl⟩ := h
  exact ⟨j, rfl⟩

lemma print (v : UInt8) : Lockstep SameUnlogged (fun _ => False) (Machine.print v) := by
  rintro m _ ⟨j, rfl⟩
  exact ⟨rfl, j, rfl⟩

lemma pc (h : SameUnlogged m m') : m.pc = m'.pc := by
  obtain ⟨j, rfl⟩ := h
  rfl

lemma withJournal ⦃m m' : Machine⦄ (j j' : Array Event) (h : SameUnlogged m m') :
    SameUnlogged { m with journal := j } { m' with journal := j' } := by
  obtain ⟨_, rfl⟩ := h
  exact ⟨j', rfl⟩

/-- Nothing that a machine does depends on its journal. -/
lemma simulation : Simulation SameUnlogged (fun _ => False) where
  registers := by
    rintro m _ ⟨j, rfl⟩
    rfl
  pc := pc
  flags := by
    rintro m _ ⟨j, rfl⟩
    rfl
  phase := by
    rintro m _ ⟨j, rfl⟩
    rfl
  interruptsEnabled := by
    rintro m _ ⟨j, rfl⟩
    rfl
  withRegisters := by
    rintro m _ rs ⟨j, rfl⟩
    exact ⟨j, rfl⟩
  withPc := by
    rintro m _ pc ⟨j, rfl⟩
    exact ⟨j, rfl⟩
  withFlags := by
    rintro m _ f ⟨j, rfl⟩
    exact ⟨j, rfl⟩
  withPhase := by
    rintro m _ phase ⟨j, rfl⟩
    exact ⟨j, rfl⟩
  withInterrupts := by
    rintro m _ enabled ⟨j, rfl⟩
    exact ⟨j, rfl⟩
  emit e _ := .emit withJournal e
  recordDecoded := .recordDecoded withJournal
  recordHalted := .recordHalted withJournal
  countTick := count _
  countRetired _ := count _
  countBranch := count _
  countInterrupt := count _
  readCell := .readCell ram
  writeCell := .writeCell ram withRam
  print v := .printOrFault (fun _ _ h => h.pc) (print v)

lemma started (h : SameUnlogged m m') : SameUnlogged m.started m'.started := by
  obtain ⟨j, rfl⟩ := h
  by_cases hidle : m.phase = .idle
  · simp only [Machine.started, hidle, if_true]
    exact ⟨_, rfl⟩
  · simp only [Machine.started, hidle, if_false]
    exact ⟨j, rfl⟩

lemma run (h : SameUnlogged m m') (budget : Nat) :
    (m.run budget).1 = (m'.run budget).1
      ∧ (m.run budget).2.unlogged = (m'.run budget).2.unlogged := by
  rw [run_eq, run_eq]
  obtain ⟨hresult, hsame⟩ := simulation.runFor (fun _ => id) h.started budget
  exact ⟨hresult, hsame.unlogged⟩

end SameUnlogged

end Machine

namespace Simulator

variable {s : Simulator}

/-! ## The loop -/

lemma run_eq (budget : Nat) : s.run budget = (s.withMachine s.machine.started).runFor budget := by
  rw [run, perform, Machine.perform, Machine.start_apply]
  rfl

lemma runFor_of_exit {e : Exit} (h : s.exit? = some e) (budget : Nat) :
    s.runFor budget = (some (.ok e), s.close e) := by
  cases budget <;> simp [runFor, h]

lemma runFor_succ (h : s.exit? = none) (budget : Nat) :
    s.runFor (budget + 1) = match s.tick with
      | (.ok (), s') => s'.runFor budget
      | (.error fault, s') => (some (.error fault), s') := by
  cases htick : s.tick with
  | mk result s' => cases result <;> simp only [runFor, h, htick]

lemma exit?_of_halted (h : s.machine.phase = .halted) : s.exit? = some .halted := by
  have hhalted : s.machine.isHalted = true := decide_eq_true h
  rw [exit?, hhalted]
  rfl

lemma exit?_of_running (h : s.machine.phase ≠ .halted) :
    s.exit? = if s.limitReached then some .tickLimit else none := by
  have hhalted : s.machine.isHalted = false := decide_eq_false h
  rw [exit?, hhalted]
  rfl

/-- The loop ticks as long as the machine is not halted and the limit is not reached. -/
lemma runFor_ticks {k : Nat} (hphase : ∀ j ≤ k, (s.machine.afterTicks j).phase ≠ .halted)
    (hlimit : ∀ j < k, (s.withMachine (s.machine.afterTicks j)).limitReached = false)
    (budget : Nat) :
    s.runFor (k + budget) = (s.withMachine (s.machine.afterTicks k)).runFor budget := by
  induction k generalizing s with
  | zero =>
    rw [Nat.zero_add]
    rfl
  | succ k ih =>
    have hnow : s.machine.phase ≠ .halted := hphase 0 (Nat.zero_le _)
    have hroom : s.limitReached = false := hlimit 0 (Nat.succ_pos k)
    have hexit : s.exit? = none := by
      rw [exit?_of_running hnow, hroom]
      rfl
    have htick : s.tick = (.ok (), s.withMachine (s.machine.perform Machine.tick).2) :=
      Prod.ext (Machine.tick_ok_of_phase (hphase 1 (by omega))) rfl
    rw [Nat.add_right_comm, runFor_succ hexit, htick]
    exact ih (s := s.withMachine (s.machine.perform Machine.tick).2)
      (fun j hj => hphase (j + 1) (Nat.succ_le_succ hj))
      (fun j hj => hlimit (j + 1) (Nat.succ_lt_succ hj))

/-- A machine that halts before the limit is reached ends the loop, with the answer of the tick that
halted it. -/
lemma runFor_of_haltsAt {last : Nat} (h : s.machine.HaltsAt (last + 1))
    (hlimit : ∀ j ≤ last, (s.withMachine (s.machine.afterTicks j)).limitReached = false)
    (budget : Nat) :
    s.runFor (last + 1 + budget) =
      (some (((s.machine.afterTicks last).perform Machine.tick).1.map fun _ => .halted),
        s.withMachine (s.machine.afterTicks (last + 1))) := by
  have hrunning : ∀ j ≤ last, (s.machine.afterTicks j).phase ≠ .halted :=
    fun j hj => h.2 j (Nat.lt_succ_of_le hj)
  have hexit : (s.withMachine (s.machine.afterTicks last)).exit? = none := by
    rw [exit?_of_running (hrunning last (Nat.le_refl _)), hlimit last (Nat.le_refl _)]
    rfl
  have hhalted := h.1
  rw [Machine.afterTicks_succ] at hhalted ⊢
  rw [Nat.add_assoc, runFor_ticks hrunning (fun j hj => hlimit j (Nat.le_of_lt hj)),
    Nat.add_comm 1 budget, runFor_succ hexit, tick, perform]
  show (match (((s.machine.afterTicks last).perform Machine.tick).1,
      s.withMachine ((s.machine.afterTicks last).perform Machine.tick).2) with
    | (.ok (), s') => s'.runFor budget
    | (.error fault, s') => (some (.error fault), s')) = _
  cases ((s.machine.afterTicks last).perform Machine.tick).1 with
  | error fault => rfl
  | ok done => exact runFor_of_exit (exit?_of_halted hhalted) budget

/-- A loop that reaches the limit ends there. -/
lemma runFor_of_limit {k : Nat} (hphase : ∀ j ≤ k, (s.machine.afterTicks j).phase ≠ .halted)
    (hroom : ∀ j < k, (s.withMachine (s.machine.afterTicks j)).limitReached = false)
    (hlimit : (s.withMachine (s.machine.afterTicks k)).limitReached = true) (budget : Nat) :
    s.runFor (k + budget) =
      (some (.ok .tickLimit), (s.withMachine (s.machine.afterTicks k)).close .tickLimit) := by
  rw [runFor_ticks hphase hroom]
  apply runFor_of_exit
  rw [exit?_of_running (hphase k (Nat.le_refl _)), hlimit]
  rfl

/-! ## Under the limit -/

/-- The loop compares the limit with the number of ticks that the machine has had. -/
lemma limitReached_afterTicks {limit : UInt64} (hlimit : s.maxTicks = some limit)
    (hfresh : s.machine.statistics.ticks = 0) {k : Nat} (hk : k ≤ limit.toNat)
    (hphase : ∀ j < k, (s.machine.afterTicks j).phase ≠ .halted) :
    (s.withMachine (s.machine.afterTicks k)).limitReached = decide (limit.toNat ≤ k) := by
  have hticks : (s.machine.afterTicks k).statistics.ticks = UInt64.ofNat k := by
    rw [Machine.ticks_afterTicks hphase, hfresh, UInt64.zero_add]
  have hk64 : (UInt64.ofNat k).toNat = k :=
    UInt64.toNat_ofNat_of_lt' (hk.trans_lt limit.toNat_lt)
  rw [limitReached]
  simp only [withMachine, hlimit, hticks, UInt64.le_iff_toNat_le, hk64]

/-- The limit stops no run that has made fewer ticks, and no limit stops none. -/
lemma limitReached_eq_false (hfresh : s.machine.statistics.ticks = 0) {k : Nat}
    (hroom : ∀ limit, s.maxTicks = some limit → k < limit.toNat)
    (hphase : ∀ j < k, (s.machine.started.afterTicks j).phase ≠ .halted) :
    ((s.withMachine s.machine.started).withMachine
      (s.machine.started.afterTicks k)).limitReached = false := by
  cases hlimit : s.maxTicks with
  | none => simp only [limitReached, withMachine, hlimit]
  | some limit =>
    have hlt := hroom limit hlimit
    have hreached := limitReached_afterTicks (s := s.withMachine s.machine.started) hlimit
      ((congrArg Statistics.ticks (Machine.statistics_started _)).trans hfresh)
      (Nat.le_of_lt hlt) hphase
    exact hreached.trans (decide_eq_false (Nat.not_le.2 hlt))

/-- A run that no limit ends first ends with the tick that halts the machine. -/
lemma run_of_haltsAt_within (hfresh : s.machine.statistics.ticks = 0) {last : Nat}
    (h : s.machine.HaltsAt (last + 1))
    (hroom : ∀ limit, s.maxTicks = some limit → last + 1 ≤ limit.toNat) {budget : Nat}
    (hbudget : last + 1 ≤ budget) :
    s.run budget =
      (some (((s.machine.afterTicks last).perform Machine.tick).1.map fun _ => .halted),
        s.withMachine (s.machine.afterTicks (last + 1))) := by
  obtain ⟨rest, rfl⟩ := Nat.exists_eq_add_of_le hbudget
  have hstarted := h.started
  have hfree : ∀ j ≤ last, ((s.withMachine s.machine.started).withMachine
      (s.machine.started.afterTicks j)).limitReached = false := by
    intro j hj
    exact limitReached_eq_false hfresh
      (fun limit hlimit => Nat.lt_of_lt_of_le (Nat.lt_succ_of_le hj) (hroom limit hlimit))
      (fun i hi => hstarted.2 i (by omega))
  have htick : (s.machine.afterTicks last).started.perform Machine.tick =
      (s.machine.afterTicks last).perform Machine.tick := by
    rw [Machine.perform, Machine.perform, Machine.tick_started (h.2 last (Nat.lt_succ_self last))]
  have hstopped : (s.machine.afterTicks (last + 1)).started = s.machine.afterTicks (last + 1) :=
    Machine.started_of_ne_idle (by rw [h.1]; decide)
  rw [run_eq, runFor_of_haltsAt hstarted hfree]
  simp only [withMachine, Machine.afterTicks_started, htick, hstopped]

/-- A run within the limit ends with the tick that halts the machine. -/
lemma run_of_haltsAt {limit : UInt64} (hlimit : s.maxTicks = some limit)
    (hfresh : s.machine.statistics.ticks = 0) {last : Nat} (h : s.machine.HaltsAt (last + 1))
    (hle : last + 1 ≤ limit.toNat) {budget : Nat} (hbudget : last + 1 ≤ budget) :
    s.run budget =
      (some (((s.machine.afterTicks last).perform Machine.tick).1.map fun _ => .halted),
        s.withMachine (s.machine.afterTicks (last + 1))) := by
  refine run_of_haltsAt_within hfresh h (fun limit' hlimit' => ?_) hbudget
  obtain rfl := Option.some.inj (hlimit.symm.trans hlimit')
  exact hle

/-- A run that neither halts nor uses up the limit within its budget has not ended. -/
lemma run_of_running (hfresh : s.machine.statistics.ticks = 0) {budget : Nat}
    (hphase : ∀ j ≤ budget, (s.machine.afterTicks j).phase ≠ .halted)
    (hroom : ∀ limit, s.maxTicks = some limit → budget < limit.toNat) :
    (s.run budget).1 = none := by
  have hstarted : ∀ j ≤ budget, (s.machine.started.afterTicks j).phase ≠ .halted := by
    intro j hj
    rw [Machine.afterTicks_started, ne_eq, Machine.phase_started_eq_halted_iff]
    exact hphase j hj
  have hfree : ∀ j ≤ budget, ((s.withMachine s.machine.started).withMachine
      (s.machine.started.afterTicks j)).limitReached = false := by
    intro j hj
    exact limitReached_eq_false hfresh
      (fun limit hlimit => Nat.lt_of_le_of_lt hj (hroom limit hlimit))
      (fun i hi => hstarted i (by omega))
  have hexit : ((s.withMachine s.machine.started).withMachine
      (s.machine.started.afterTicks budget)).exit? = none := by
    rw [exit?_of_running (hstarted budget (Nat.le_refl _)), hfree budget (Nat.le_refl _)]
    rfl
  have hrun := runFor_ticks (s := s.withMachine s.machine.started) hstarted
    (fun j hj => hfree j (Nat.le_of_lt hj)) 0
  rw [Nat.add_zero] at hrun
  rw [run_eq, hrun, runFor]
  simp only [withMachine] at hexit ⊢
  rw [hexit]

/-- A run that uses up the limit ends there. -/
lemma run_of_limit {limit : UInt64} (hlimit : s.maxTicks = some limit)
    (hfresh : s.machine.statistics.ticks = 0)
    (hphase : ∀ j ≤ limit.toNat, (s.machine.afterTicks j).phase ≠ .halted) {budget : Nat}
    (hbudget : limit.toNat ≤ budget) :
    s.run budget = (some (.ok .tickLimit),
      (s.withMachine (s.machine.afterTicks limit.toNat).started).close .tickLimit) := by
  obtain ⟨rest, rfl⟩ := Nat.exists_eq_add_of_le hbudget
  have hstarted : ∀ j ≤ limit.toNat, (s.machine.started.afterTicks j).phase ≠ .halted := by
    intro j hj
    rw [Machine.afterTicks_started, ne_eq, Machine.phase_started_eq_halted_iff]
    exact hphase j hj
  have hreached : ∀ j ≤ limit.toNat, ((s.withMachine s.machine.started).withMachine
      (s.machine.started.afterTicks j)).limitReached = decide (limit.toNat ≤ j) := by
    intro j hj
    exact limitReached_afterTicks (s := s.withMachine s.machine.started) hlimit
      ((congrArg Statistics.ticks (Machine.statistics_started _)).trans hfresh) hj
      (fun i hi => hstarted i (by omega))
  rw [run_eq, runFor_of_limit hstarted
    (fun j hj => (hreached j (Nat.le_of_lt hj)).trans (decide_eq_false (by omega)))
    ((hreached _ (Nat.le_refl _)).trans (decide_eq_true (Nat.le_refl _)))]
  simp only [withMachine, Machine.afterTicks_started]

/-- A run that finds the limit used up records that and does nothing else. -/
lemma run_of_limitReached (hphase : s.machine.phase = .running) (hlimit : s.limitReached = true)
    (budget : Nat) : s.run budget = (some (.ok .tickLimit), s.close .tickLimit) := by
  have hstarted : s.machine.started = s.machine :=
    Machine.started_of_ne_idle (by rw [hphase]; decide)
  have hexit : s.exit? = some .tickLimit := by
    rw [exit?_of_running (by rw [hphase]; decide), hlimit]
    rfl
  rw [run_eq, hstarted]
  exact runFor_of_exit hexit budget

/-- **The driver loop is bounded ticking.**  A run under a limit always ends.  If the machine
halts within the limit, the run makes as many ticks as that takes and ends with the halt, or with
the fault, of the last of them.  If it does not, the run makes as many ticks as the limit allows,
and what is left is the running machine: running it again under the limit changes nothing, and
running it without a limit ends as an undivided run would.  A halted machine stays as it is. -/
theorem run_is_bounded_ticking {program : List UInt8} {c : Config} {output : Output}
    {limit : UInt64} (hload : load program c output = .ok s) (hlimit : c.maxTicks = some limit) :
    (∀ h, s.machine.HaltsAt h → h ≤ limit.toNat →
        (s.machine.afterTicks h).statistics.ticks.toNat = h
          ∧ ∃ last, h = last + 1
            ∧ (((s.machine.afterTicks last).perform Machine.tick).1 = .ok () ↔
                (s.machine.afterTicks last).ExecutesHalt)
            ∧ ∀ budget, limit.toNat ≤ budget →
                s.run budget =
                  (some (((s.machine.afterTicks last).perform Machine.tick).1.map
                    fun _ => .halted), s.withMachine (s.machine.afterTicks h)))
      ∧ ((∀ h, s.machine.HaltsAt h → limit.toNat < h) →
        (limit ≠ 0 → (s.machine.afterTicks limit.toNat).phase = .running)
          ∧ ∃ s',
            (∀ budget, limit.toNat ≤ budget → s.run budget = (some (.ok .tickLimit), s'))
            ∧ s'.machine.unlogged =
                { s.machine.afterTicks limit.toNat with phase := .running }.unlogged
            ∧ s'.machine.statistics.ticks = limit
            ∧ (∀ budget, ∃ s'', s'.run budget = (some (.ok .tickLimit), s'')
                ∧ s''.machine.unlogged = s'.machine.unlogged)
            ∧ ∀ budget,
                (s'.machine.run budget).1 = (s.machine.run (limit.toNat + budget)).1
                  ∧ (s'.machine.run budget).2.unlogged =
                    (s.machine.run (limit.toNat + budget)).2.unlogged)
      ∧ ∀ h, s.machine.HaltsAt h → ∀ k,
          (s.machine.afterTicks (h + k)).perform Machine.tick =
            (.ok (), s.machine.afterTicks h) := by
  obtain ⟨-, -, rfl⟩ := load_eq_ok_iff.1 hload
  set m := Machine.loaded program c output with hm
  have hidle : m.phase = .idle := rfl
  have hfresh : m.statistics.ticks = 0 := rfl
  have hnow : m.phase ≠ .halted := by
    rw [hidle]
    decide
  refine ⟨?_, ?_, ?_⟩
  · intro h hhalts hle
    obtain ⟨last, rfl⟩ : ∃ last, h = last + 1 := ⟨h - 1, by have := hhalts.pos hnow; omega⟩
    refine ⟨?_, last, rfl, ?_, ?_⟩
    · show (m.afterTicks (last + 1)).statistics.ticks.toNat = last + 1
      rw [Machine.ticks_afterTicks hhalts.2, hfresh, UInt64.zero_add]
      exact UInt64.toNat_ofNat_of_lt' (hle.trans_lt limit.toNat_lt)
    · have hhalted := hhalts.1
      rw [Machine.afterTicks_succ] at hhalted
      exact Machine.tick_ok_iff_executesHalt (hhalts.2 last (Nat.lt_succ_self last)) hhalted
    · intro budget hbudget
      exact run_of_haltsAt hlimit hfresh hhalts hle (hle.trans hbudget)
  · intro hbeyond
    have hrunning : ∀ j ≤ limit.toNat, (m.afterTicks j).phase ≠ .halted := by
      intro j hj hhalted
      obtain ⟨h, hle, hhalts⟩ := Machine.exists_haltsAt hhalted
      have hlate := hbeyond h hhalts
      omega
    have hlast := hrunning limit.toNat (Nat.le_refl _)
    have hticks : (m.afterTicks limit.toNat).started.statistics.ticks = limit := by
      have hearlier : ∀ j < limit.toNat, (m.afterTicks j).phase ≠ .halted :=
        fun j hj => hrunning j (Nat.le_of_lt hj)
      rw [Machine.statistics_started, Machine.ticks_afterTicks hearlier, hfresh, UInt64.zero_add,
        UInt64.ofNat_toNat]
    refine ⟨?_, _, fun budget hbudget => run_of_limit hlimit hfresh hrunning hbudget,
      Machine.unlogged_started hlast, hticks, ?_, ?_⟩
    · intro hne
      refine Machine.phase_afterTicks_of_pos ?_ hlast
      exact Nat.pos_of_ne_zero fun hzero => hne (UInt64.toNat_inj.1 hzero)
    · intro budget
      refine ⟨_, run_of_limitReached (Machine.phase_started hlast) ?_ budget, rfl⟩
      simp only [limitReached, withMachine, hlimit]
      exact decide_eq_true (UInt64.le_of_eq hticks.symm)
    · intro budget
      have hundivided : m.run (limit.toNat + budget) =
          (m.afterTicks limit.toNat).started.run budget := by
        rw [Machine.run_ticks hrunning, Machine.run_started]
      obtain ⟨hresult, hsame⟩ := Machine.SameUnlogged.run (m := (m.afterTicks limit.toNat).started)
        ⟨_, rfl⟩ budget
      rw [hundivided]
      exact ⟨hresult.symm, hsame.symm⟩
  · intro h hhalts k
    show (m.afterTicks (h + k)).perform Machine.tick = (.ok (), m.afterTicks h)
    rw [Machine.afterTicks_add, Machine.afterTicks_of_halted hhalts.1,
      Machine.perform_tick_of_halted hhalts.1]

/-- A program that halts with its third instruction. -/
def haltingProgram : List UInt8 := [0x99, 0, 5, 0x43, 0, 0x01]

/-- The limit allows the halt and nothing more. -/
theorem run_is_bounded_ticking_halting :
    ∃ s, load haltingProgram { maxTicks := some 3 } .unlimited = .ok s
      ∧ s.run 3 = (some (.ok .halted), s.withMachine (s.machine.afterTicks 3))
      ∧ (s.machine.afterTicks 3).output.text = "5\n" := by
  let limited : Config := { maxTicks := some 3 }
  have hload : load haltingProgram limited .unlimited =
      .ok ⟨Machine.loaded haltingProgram limited .unlimited, .ofConfig limited, some 3⟩ :=
    load_eq_ok_iff.2 ⟨(Config.validate_eq_ok_iff _).1 rfl, by decide, rfl⟩
  have hhalts : (Machine.loaded haltingProgram limited .unlimited).HaltsAt 3 := by
    refine ⟨?_, ?_⟩ <;> decide +kernel
  obtain ⟨-, last, hlast, -, hrun⟩ :=
    (run_is_bounded_ticking hload rfl).1 3 hhalts (by decide)
  obtain rfl : last = 2 := by omega
  have hanswer : (((Machine.loaded haltingProgram limited .unlimited).afterTicks 2).perform
      Machine.tick).1 = .ok () := by
    decide +kernel
  refine ⟨_, hload, ?_, ?_⟩
  · rw [hrun 3 (by decide), hanswer]
    rfl
  · decide +kernel

end Simulator

end LS8
