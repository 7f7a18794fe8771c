import LS8.Proofs.History
import LS8.Proofs.StraightLine
import LS8.Proofs.TickLimit

/-!
# Observation

A machine counts what it does, traces its instructions and keeps what it printed and what happened
to it.  None of that comes back to the program: the processor goes its way whatever is observed of
it.

Two relations that every tick respects make this precise.  A machine runs as the same processor does
that nobody has observed yet (`unobserved`), and counts and prints what that one counts and prints,
on top of what it had (`Observed`).  And a machine that traces its instructions runs as one that
does not, which has the same journal without the lines of the trace (`quieted`).

The clock only lets time pass between the ticks, so a run on it is the run that does not ask it
(`runOnClock_eq`).
-/

namespace LS8

/-- The counters with more counted. -/
def Statistics.plus (s d : Statistics) : Statistics where
  ticks := s.ticks + d.ticks
  retired := s.retired + d.retired
  alu := s.alu + d.alu
  load := s.load + d.load
  branch := s.branch + d.branch
  output := s.output + d.output
  interrupt := s.interrupt + d.interrupt
  system := s.system + d.system
  branchesTaken := s.branchesTaken + d.branchesTaken
  interruptsServiced := s.interruptsServiced + d.interruptsServiced

namespace Statistics

variable (s d : Statistics)

@[simp] lemma plus_empty : s.plus {} = s := by
  simp [plus]

/-- An instruction that retires is one more, however many there were. -/
lemma plus_retire (c : InstructionClass) : s.plus (d.retire c) = (s.plus d).retire c := by
  cases c <;> simp [plus, retire, count, UInt64.add_assoc]

end Statistics

namespace Machine

variable {m m' n : Machine}

/-- The machines are the same as far as a program can tell, and in the same phase of life. -/
structure SameProcessor (m m' : Machine) : Prop extends Agrees m m' where
  phase : m.phase = m'.phase

lemma SameProcessor.refl (m : Machine) : SameProcessor m m :=
  ⟨.refl m, rfl⟩

lemma SameProcessor.of_common (h : SameProcessor m n) (h' : SameProcessor m' n) :
    SameProcessor m m' where
  registers := h.registers.trans h'.registers.symm
  pc := h.pc.trans h'.pc.symm
  flags := h.flags.trans h'.flags.symm
  ram := h.ram.trans h'.ram.symm
  interruptsEnabled := h.interruptsEnabled.trans h'.interruptsEnabled.symm
  phase := h.phase.trans h'.phase.symm

/-- The same processor with nothing counted, printed or recorded yet, and no trace. -/
def unobserved (m : Machine) : Machine :=
  { m with tracing := false, statistics := {}, output := .unlimited, journal := #[] }

/-! ## Counting and printing -/

/-- The machines have the same processor, and the first has counted and printed on top of `s` and
`o` what the second has. -/
structure Observed (s : Statistics) (o : Output) (m n : Machine) : Prop
    extends SameProcessor m n where
  statistics : m.statistics = s.plus n.statistics
  output : m.output = { o with text := o.text ++ n.output.text }
  neverFails : n.output.NeverFails

namespace Observed

variable {s : Statistics} {o : Output}

lemma withJournal ⦃m n : Machine⦄ (j j' : Array Event) (h : Observed s o m n) :
    Observed s o { m with journal := j } { n with journal := j' } :=
  { h with }

lemma count {f : Statistics → Statistics} (hf : ∀ d, s.plus (f d) = f (s.plus d)) :
    Lockstep (Observed s o) (fun _ => False) (Machine.count f) := by
  intro m n h
  refine ⟨rfl, { h with statistics := ?_ }⟩
  rw [hf, ← h.statistics]

lemma print (ho : o.NeverFails) (v : UInt8) :
    Lockstep (Observed s o) (fun _ => False) (Machine.print v) := by
  intro m n h
  have hm : m.output.NeverFails := by
    rw [h.output]
    exact ⟨ho.room, ho.flushes⟩
  rw [print_apply, print_apply, hm.print_eq_ok, h.neverFails.print_eq_ok]
  refine ⟨rfl, { h with output := ?_, neverFails := h.neverFails.print v }⟩
  show (m.output.print v).1 = { o with text := o.text ++ (n.output.print v).1.text }
  rw [hm.print_fst, h.neverFails.print_fst, h.output, String.append_assoc]

/-- The processor does not see what is counted and printed. -/
lemma simulation (ho : o.NeverFails) : Simulation (Observed s o) (fun _ => False) where
  registers h := h.registers
  pc h := h.pc
  flags h := h.flags
  phase h := h.phase
  interruptsEnabled h := h.interruptsEnabled
  withRegisters _ h := { h with registers := rfl }
  withPc _ h := { h with pc := rfl }
  withFlags _ h := { h with flags := rfl }
  withPhase _ h := { h with phase := rfl }
  withInterrupts _ h := { h with interruptsEnabled := rfl }
  emit e _ := .emit withJournal e
  recordDecoded := .recordDecoded withJournal
  recordHalted := .recordHalted withJournal
  countTick := count fun d => by simp [Statistics.plus, UInt64.add_assoc]
  countRetired c := count fun d => s.plus_retire d c
  countBranch := count fun d => by simp [Statistics.plus, UInt64.add_assoc]
  countInterrupt := count fun d => by simp [Statistics.plus, UInt64.add_assoc]
  readCell := .readCell fun _ _ h => h.ram
  writeCell := .writeCell (fun _ _ h => h.ram) fun _ _ _ h => { h with ram := rfl }
  print v := .printOrFault (fun _ _ h => h.pc) (print ho v)

lemma of_sameProcessor (h : SameProcessor m m') :
    Observed m.statistics m.output m m'.unobserved :=
  { h with
    statistics := (Statistics.plus_empty _).symm
    output := by simp [unobserved, Output.unlimited]
    neverFails := ⟨rfl, rfl⟩ }

end Observed

/-! ## Tracing -/

/-- The machine without its trace. -/
def quieted (m : Machine) : Machine :=
  { m with tracing := false, journal := m.journal.filter fun e => !e.isDecoded }

/-- The first machine is the second without its trace. -/
def Quiets (m m' : Machine) : Prop :=
  m = m'.quieted

namespace Quiets

lemma count (f : Statistics → Statistics) :
    Lockstep Quiets (fun _ => False) (Machine.count f) := by
  rintro _ m' rfl
  exact ⟨rfl, rfl⟩

lemma withRam ⦃m m' : Machine⦄ (ram : Ram) (h : Quiets m m') :
    Quiets { m with ram := ram } { m' with ram := ram } := by
  rw [h]
  rfl

lemma print (v : UInt8) : Lockstep Quiets (fun _ => False) (Machine.print v) := by
  rintro _ m' rfl
  exact ⟨rfl, rfl⟩

lemma sameProcessor (h : Quiets m m') : SameProcessor m m' := by
  rw [h]
  exact ⟨⟨rfl, rfl, rfl, rfl, rfl⟩, rfl⟩

/-- Whatever is recorded that is not an instruction is recorded by both. -/
lemma emit {e : Event} (he : e.isDecoded = false) :
    Lockstep Quiets (fun _ => False) (Machine.emit e) := by
  rintro _ m' rfl
  refine ⟨rfl, ?_⟩
  show Quiets _ { m' with journal := m'.journal.push e }
  simp [Quiets, quieted, he]

/-- An instruction is recorded by the second machine at most. -/
lemma recordDecoded (i : Instruction) :
    Lockstep Quiets (fun _ => False) (Machine.recordDecoded i) := by
  rintro _ m' rfl
  simp only [Machine.recordDecoded, get_bind_apply]
  split
  · rename_i htracing
    cases htracing
  · split
    · refine ⟨rfl, ?_⟩
      show Quiets _ { m' with journal := m'.journal.push (.decoded m'.pc i) }
      simp [Quiets, quieted, Event.isDecoded]
    · exact ⟨rfl, rfl⟩

lemma recordHalted : Lockstep Quiets (fun _ => False) Machine.recordHalted := by
  rintro _ m' rfl
  exact emit (e := .halted m'.pc m'.statistics.ticks) rfl rfl

lemma simulation : Simulation Quiets (fun _ => False) where
  registers h := h.sameProcessor.registers
  pc h := h.sameProcessor.pc
  flags h := h.sameProcessor.flags
  phase h := h.sameProcessor.phase
  interruptsEnabled h := h.sameProcessor.interruptsEnabled
  withRegisters := by
    rintro _ _ _ rfl
    rfl
  withPc := by
    rintro _ _ _ rfl
    rfl
  withFlags := by
    rintro _ _ _ rfl
    rfl
  withPhase := by
    rintro _ _ _ rfl
    rfl
  withInterrupts := by
    rintro _ _ _ rfl
    rfl
  emit _ he := emit he
  recordDecoded := recordDecoded
  recordHalted := recordHalted
  countTick := count _
  countRetired _ := count _
  countBranch := count _
  countInterrupt := count _
  readCell := .readCell fun _ _ h => h.sameProcessor.ram
  writeCell := .writeCell (fun _ _ h => h.sameProcessor.ram) withRam
  print v := .printOrFault (fun _ _ h => h.sameProcessor.pc) (print v)

end Quiets

end Machine

/-! ## Runs of a simulator -/

namespace Simulator

open Machine

variable {R : Machine → Machine → Prop} {s s' : Simulator}

section

variable (sim : Simulation R fun _ => False)
  (hticks : ∀ ⦃m m'⦄, R m m' → m.statistics.ticks = m'.statistics.ticks)
include sim hticks

/-- Simulators of related machines are at the end of their runs alike. -/
lemma exit?_of_simulation (hlimit : s.maxTicks = s'.maxTicks) (h : R s.machine s'.machine) :
    s.exit? = s'.exit? := by
  have hreached : s.limitReached = s'.limitReached := by
    rw [limitReached, limitReached, hlimit, hticks h]
  rw [exit?, exit?, isHalted, isHalted, sim.phase h, hreached]

lemma close_of_simulation (e : Exit) (h : R s.machine s'.machine) :
    R (s.close e).machine (s'.close e).machine := by
  cases e with
  | halted => exact h
  | tickLimit =>
    rw [close, close, hticks h]
    exact (sim.emit (.tickLimitReached s'.machine.statistics.ticks) rfl h).2

/-- Simulators of related machines run alike, if related machines have counted the same ticks. -/
lemma runFor_of_simulation (hlimit : s.maxTicks = s'.maxTicks) (h : R s.machine s'.machine)
    (budget : Nat) :
    (s.runFor budget).1 = (s'.runFor budget).1
      ∧ R (s.runFor budget).2.machine (s'.runFor budget).2.machine := by
  induction budget generalizing s s' with
  | zero =>
    have hexit := exit?_of_simulation sim hticks hlimit h
    cases hs : s.exit? with
    | some e =>
      rw [runFor_of_exit hs, runFor_of_exit (hexit.symm.trans hs)]
      exact ⟨rfl, close_of_simulation sim hticks e h⟩
    | none =>
      rw [runFor, runFor, ← hexit, hs]
      exact ⟨rfl, h⟩
  | succ budget ih =>
    have hexit := exit?_of_simulation sim hticks hlimit h
    cases hs : s.exit? with
    | some e =>
      rw [runFor_of_exit hs, runFor_of_exit (hexit.symm.trans hs)]
      exact ⟨rfl, close_of_simulation sim hticks e h⟩
    | none =>
      obtain ⟨hresult, hrelated⟩ := sim.perform_tick h fun _ _ => id
      have hlimits : s.tick.2.maxTicks = s'.tick.2.maxTicks := hlimit
      rw [runFor_succ hs, runFor_succ (hexit.symm.trans hs)]
      change s.tick.1 = s'.tick.1 at hresult
      change R s.tick.2.machine s'.tick.2.machine at hrelated
      cases hn : s.tick with
      | mk result n =>
        cases hn' : s'.tick with
        | mk result' n' =>
          rw [hn, hn'] at hresult hrelated hlimits
          obtain rfl : result = result' := hresult
          cases result with
          | error fault => exact ⟨rfl, hrelated⟩
          | ok done => exact ih hlimits hrelated

end

/-- A run of a simulator on its clock: before each tick the clock is asked how long to wait, at a
time that may be different for every tick that is left. -/
def runForOnClock (now : Nat → Nat) :
    Nat → Simulator → Option (Except Fault Exit) × Simulator
  | budget, s =>
    match s.exit? with
    | some exit => (some (.ok exit), s.close exit)
    | none =>
      match budget with
      | 0 => (none, s)
      | budget + 1 =>
        match ({ s with clock := (s.clock.wait (now budget)).2 } : Simulator).tick with
        | (.ok (), s') => runForOnClock now budget s'
        | (.error fault, s') => (some (.error fault), s')

/-- Starts the machine and runs it on the clock. -/
def runOnClock (now : Nat → Nat) (budget : Nat) (s : Simulator) :
    Option (Except Fault Exit) × Simulator :=
  runForOnClock now budget (s.perform Machine.start).2

/-- The loop does not look at the clock. -/
lemma runForOnClock_eq (now : Nat → Nat) (budget : Nat) (m : Machine) (clock clock' : Clock)
    (limit : Option UInt64) :
    (runForOnClock now budget ⟨m, clock, limit⟩).1 = (runFor budget ⟨m, clock', limit⟩).1
      ∧ (runForOnClock now budget ⟨m, clock, limit⟩).2.machine =
          (runFor budget ⟨m, clock', limit⟩).2.machine := by
  have hexit : ∀ m, exit? ⟨m, clock, limit⟩ = exit? ⟨m, clock', limit⟩ := fun _ => rfl
  induction budget generalizing m clock with
  | zero =>
    rw [runForOnClock, runFor, hexit]
    cases exit? ⟨m, clock', limit⟩ with
    | none => exact ⟨rfl, rfl⟩
    | some e => cases e <;> exact ⟨rfl, rfl⟩
  | succ budget ih =>
    rw [runForOnClock, runFor, hexit]
    cases exit? ⟨m, clock', limit⟩ with
    | some e => cases e <;> exact ⟨rfl, rfl⟩
    | none =>
      dsimp only [tick, perform]
      cases (m.perform Machine.tick).1 with
      | error fault => exact ⟨rfl, rfl⟩
      | ok done => exact ih _ _ fun _ => rfl

/-- Waiting for the clock changes neither the answer nor the machine. -/
lemma runOnClock_eq (s : Simulator) (now : Nat → Nat) (budget : Nat) :
    (s.runOnClock now budget).1 = (s.run budget).1
      ∧ (s.runOnClock now budget).2.machine = (s.run budget).2.machine :=
  runForOnClock_eq now budget (s.perform Machine.start).2.machine s.clock s.clock s.maxTicks

/-- A run without the trace is the run of the machine that does not trace. -/
lemma run_quieted {q : Simulator} (hlimit : q.maxTicks = s.maxTicks)
    (hmachine : q.machine = s.machine.quieted) (budget : Nat) :
    (q.run budget).1 = (s.run budget).1
      ∧ (q.run budget).2.machine = (s.run budget).2.machine.quieted := by
  have hticks : ∀ ⦃m m'⦄, Quiets m m' → m.statistics.ticks = m'.statistics.ticks := by
    rintro _ _ rfl
    rfl
  have hstarted : Quiets q.machine.started s.machine.started := by
    have hstart := Quiets.simulation.start hmachine
    rw [start_apply, start_apply] at hstart
    exact hstart.2
  have hlimit' : (q.withMachine q.machine.started).maxTicks =
      (s.withMachine s.machine.started).maxTicks := hlimit
  rw [run_eq, run_eq]
  exact runFor_of_simulation Quiets.simulation hticks hlimit' hstarted budget

/-- A machine that does not trace stays without a trace. -/
lemma quieted_run (h : s.machine.quieted = s.machine) (budget : Nat) :
    (s.run budget).2.machine.quieted = (s.run budget).2.machine :=
  (run_quieted rfl h.symm budget).2.symm

/-- **Observation does not disturb the machine.**  Whatever two machines trace, have counted and
have printed, if their processors are the same and their outputs never fail, every row of ticks has
the same results and leaves the same processors behind, prints the same and counts the same.  And
two configurations that differ only in the trace and in the clock have a program run alike: the same
answer, and the same machine but for the trace, which is all that the journal of a run without it
lacks.  Asking the clock before each tick, at whatever times, changes nothing. -/
theorem observation_does_not_disturb :
    (∀ {m m' : Machine}, SameProcessor m m' → m.output.NeverFails → m'.output.NeverFails → ∀ k,
        (∀ j < k, ((m.afterTicks j).perform Machine.tick).1 =
            ((m'.afterTicks j).perform Machine.tick).1)
          ∧ SameProcessor (m.afterTicks k) (m'.afterTicks k)
          ∧ (∃ printed,
              (m.afterTicks k).output = { m.output with text := m.output.text ++ printed }
              ∧ (m'.afterTicks k).output = { m'.output with text := m'.output.text ++ printed })
          ∧ ∃ counted, Accounts (m.unobserved.past k) counted
              ∧ (m.afterTicks k).statistics = m.statistics.plus counted
              ∧ (m'.afterTicks k).statistics = m'.statistics.plus counted)
      ∧ ∀ {program : List UInt8} {c c' : Config} {output : Output} {s s' : Simulator},
          { c with tracing := c'.tracing, tickPeriod := c'.tickPeriod, paced := c'.paced } = c' →
          load program c output = .ok s → load program c' output = .ok s' → ∀ budget,
            (s.run budget).1 = (s'.run budget).1
              ∧ (s.run budget).2.machine.quieted = (s'.run budget).2.machine.quieted
              ∧ (c.tracing = false →
                  (s.run budget).2.machine.journal =
                    (s'.run budget).2.machine.journal.filter fun e => !e.isDecoded)
              ∧ ∀ now, (s.runOnClock now budget).1 = (s.run budget).1
                ∧ (s.runOnClock now budget).2.machine = (s.run budget).2.machine := by
  refine ⟨?_, ?_⟩
  · intro m m' hsame hout hout' k
    have hm : Observed m.statistics m.output m m.unobserved := .of_sameProcessor (.refl m)
    have hm' : Observed m'.statistics m'.output m' m.unobserved :=
      .of_sameProcessor (.of_common (.refl m') hsame)
    obtain ⟨hresults, hrun⟩ :=
      (Observed.simulation hout).afterTicks (k := k) hm fun _ _ _ _ => id
    obtain ⟨hresults', hrun'⟩ :=
      (Observed.simulation hout').afterTicks (k := k) hm' fun _ _ _ _ => id
    exact ⟨fun j hj => (hresults j hj).trans (hresults' j hj).symm,
      .of_common hrun.toSameProcessor hrun'.toSameProcessor,
      ⟨_, hrun.output, hrun'.output⟩,
      ⟨_, accounts_afterTicks rfl k, hrun.statistics, hrun'.statistics⟩⟩
  · intro program c c' output s s' hconfig hload hload' budget
    obtain ⟨-, -, rfl⟩ := load_eq_ok_iff.1 hload
    obtain ⟨-, -, rfl⟩ := load_eq_ok_iff.1 hload'
    have hsize : c.ramSize = c'.ramSize := by rw [← hconfig]
    have htop : c.stackTop = c'.stackTop := by rw [← hconfig]
    set s : Simulator := ⟨loaded program c output, .ofConfig c, c.maxTicks⟩
    set s' : Simulator := ⟨loaded program c' output, .ofConfig c', c'.maxTicks⟩
    have hquieted : s.machine.quieted = s'.machine.quieted := by
      simp only [s, s', loaded, quieted, initial, hsize, htop]
    let q : Simulator := s.withMachine s.machine.quieted
    have hlimit : q.maxTicks = s.maxTicks := rfl
    have hlimit' : q.maxTicks = s'.maxTicks := by
      show c.maxTicks = c'.maxTicks
      rw [← hconfig]
    obtain ⟨hresult, hmachine⟩ := run_quieted hlimit rfl budget
    obtain ⟨hresult', hmachine'⟩ := run_quieted hlimit' hquieted budget
    have hsame := hmachine.symm.trans hmachine'
    refine ⟨hresult.symm.trans hresult', hsame, fun huntraced => ?_,
      fun now => s.runOnClock_eq now budget⟩
    have hself : s.machine.quieted = s.machine := by
      simp [s, loaded, quieted, initial, huntraced, Event.isDecoded]
    rw [quieted_run hself] at hsame
    rw [hsame]
    rfl

/-- A program that prints a number and halts. -/
def printingEight : List UInt8 := [0x99, 0, 8, 0x43, 0, 0x01]

/-- A machine with the program that has counted and printed before and traces now does what the
fresh one does.  Its trace is three of the six lines in the journal. -/
theorem observation_does_not_disturb_printingEight :
    let fresh := loaded printingEight {} .unlimited
    let used : Machine :=
      { fresh with
        tracing := true
        statistics := { ticks := 7, retired := 7, load := 7 }
        output := { text := "1\n", failure := .other } }
    (used.afterTicks 3).phase = .halted
      ∧ (used.afterTicks 3).output.text = "1\n8\n"
      ∧ (used.afterTicks 3).statistics.ticks = 10
      ∧ ∃ s s', load printingEight {} .unlimited = .ok s
        ∧ load printingEight { tracing := true, tickPeriod := 0, paced := false } .unlimited = .ok s'
        ∧ (s.run 9).1 = some (.ok .halted)
        ∧ (s'.run 9).1 = some (.ok .halted)
        ∧ (s.runOnClock (fun left => 9 - left) 9).1 = some (.ok .halted)
        ∧ (s'.run 9).2.machine.journal.size = 6
        ∧ ((s'.run 9).2.machine.journal.filter fun e => !e.isDecoded).size = 3 := by
  intro fresh used
  have hsame : SameProcessor fresh used := ⟨⟨rfl, rfl, rfl, rfl, rfl⟩, rfl⟩
  obtain ⟨-, hafter, ⟨printed, hprinted, hprinted'⟩, counted, -, hcounted, hcounted'⟩ :=
    observation_does_not_disturb.1 hsame ⟨rfl, rfl⟩ ⟨rfl, rfl⟩ 3
  have hphase : (fresh.afterTicks 3).phase = .halted := by decide +kernel
  have htext : (fresh.afterTicks 3).output.text = "8\n" := by decide +kernel
  have hticks : (fresh.afterTicks 3).statistics.ticks = 3 := by decide +kernel
  have hnew : printed = "8\n" := by
    rw [← htext, hprinted]
    exact String.empty_append.symm
  have hmore : counted.ticks = 3 := by
    rw [← hticks, hcounted]
    exact (UInt64.zero_add _).symm
  refine ⟨hafter.phase.symm.trans hphase, ?_, ?_, ?_⟩
  · rw [hprinted', hnew]
    decide
  · rw [hcounted']
    show 7 + counted.ticks = 10
    rw [hmore]
    rfl
  · have hload : load printingEight {} .unlimited = .ok _ :=
      load_eq_ok_iff.2 ⟨(Config.validate_eq_ok_iff _).1 rfl, by decide, rfl⟩
    have hload' : load printingEight { tracing := true, tickPeriod := 0, paced := false }
        .unlimited = .ok _ :=
      load_eq_ok_iff.2 ⟨(Config.validate_eq_ok_iff _).1 rfl, by decide, rfl⟩
    obtain ⟨hresult, -, hjournal, hclock⟩ := observation_does_not_disturb.2 rfl hload hload' 9
    have hanswer : (run 9 ⟨loaded printingEight {} .unlimited, .ofConfig {}, none⟩).1 =
        some (.ok .halted) := by
      decide +kernel
    refine ⟨_, _, hload, hload', hanswer, hresult.symm.trans hanswer,
      (hclock _).1.trans hanswer, by decide +kernel, ?_⟩
    rw [← hjournal rfl]
    decide +kernel

end Simulator

end LS8
