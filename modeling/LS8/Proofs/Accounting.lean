import LS8.Proofs.History
import LS8.Proofs.TickLimit

/-!
# Statistics account for every tick

A simulator may be started, ticked and run, and its machine may be run without it, in any order
(`Simulator.Operation`).  All of these come down to starting the machine and giving it ticks, so the
counters stay in balance with the machines that got a tick (`Ledger`): as long as the machine has
not halted every tick has retired an instruction, and the tick that stopped it has either retired
the only `HLT` or retired nothing and ended in a fault.

Each counter is a word, so the balance is that of the numbers as long as there were fewer than
`2 ^ 64` ticks; ticks of a halted machine do not count.
-/

namespace LS8

open Machine

/-! ## Operations and their ticks -/

/-- The machines that get a tick in a run with some budget. -/
def Machine.tickedFor : Nat → Machine → List Machine
  | 0, _ => []
  | budget + 1, m => if m.isHalted then [] else m :: tickedFor budget (m.perform tick).2

namespace Simulator

/-- The machines that get a tick in a run of a simulator. -/
def tickedFor : Nat → Simulator → List Machine
  | 0, _ => []
  | budget + 1, s =>
    if s.exit?.isSome then [] else s.machine :: tickedFor budget s.tick.2

/-- What can be done to a simulator.  A run is given the number of ticks that it may spend. -/
inductive Operation where
  /-- The machine is started. -/
  | start
  /-- The machine gets one tick. -/
  | tick
  /-- The machine runs by itself. -/
  | runMachine (budget : Nat)
  /-- The simulator runs the machine, under its limit of ticks. -/
  | run (budget : Nat)
  deriving DecidableEq, Repr

/-- The simulator after an operation. -/
def operate (s : Simulator) : Operation → Simulator
  | .start => (s.perform Machine.start).2
  | .tick => s.tick.2
  | .runMachine budget => s.withMachine (s.machine.run budget).2
  | .run budget => (s.run budget).2

/-- The machines that get a tick in an operation. -/
def ticked (s : Simulator) : Operation → List Machine
  | .start => []
  | .tick => [s.machine]
  | .runMachine budget => (s.machine.perform Machine.start).2.tickedFor budget
  | .run budget => (s.perform Machine.start).2.tickedFor budget

/-- The simulator after some operations. -/
def operateAll : List Operation → Simulator → Simulator
  | [], s => s
  | op :: rest, s => operateAll rest (s.operate op)

/-- The machines that got a tick in some operations. -/
def history : List Operation → Simulator → List Machine
  | [], _ => []
  | op :: rest, s => s.ticked op ++ history rest (s.operate op)

end Simulator

/-! ## The balance -/

/-- The ticks that were not ignored. -/
def liveTicks (past : List Machine) : Nat :=
  past.countP fun p => !p.isHalted

/-- The ticks that retired an instruction. -/
def retirements (past : List Machine) : Nat :=
  past.countP fun p => p.retires?.isSome

/-- The ticks that retired an instruction of some class. -/
def retirementsOf (c : InstructionClass) (past : List Machine) : Nat :=
  past.countP fun p => p.retiresClass c

/-- The machine that some ticks have led to, in balance with them. -/
structure Ledger (past : List Machine) (m : Machine) : Prop where
  accounts : Accounts past m.statistics
  /-- Every tick of a machine that goes on has retired an instruction, and none a halt. -/
  live : m.phase ≠ .halted → liveTicks past = retirements past ∧ retirementsOf .system past = 0
  /-- The tick that stopped a machine has retired the only halt or ended in a fault. -/
  stopped : m.phase = .halted →
    (liveTicks past = retirements past ∧ retirementsOf .system past = 1
        ∧ m.ram.cell? m.pc = some Opcode.hlt.byte ∧ ∃ p ∈ past, p.retires .hlt = true)
      ∨ (liveTicks past = retirements past + 1 ∧ retirementsOf .system past = 0
        ∧ ∃ p ∈ past, ∃ fault, (p.perform tick).1 = .error fault)

namespace Machine

variable {m : Machine} {i : Instruction} {past : List Machine}

lemma retirementsOf_append (c : InstructionClass) :
    retirementsOf c (past ++ [m]) = retirementsOf c past + if m.retiresClass c then 1 else 0 := by
  rw [retirementsOf, List.countP_append, List.countP_singleton]
  rfl

lemma retirements_append :
    retirements (past ++ [m]) = retirements past + if m.retires?.isSome then 1 else 0 := by
  rw [retirements, List.countP_append, List.countP_singleton]
  rfl

lemma liveTicks_append :
    liveTicks (past ++ [m]) = liveTicks past + if m.isHalted then 0 else 1 := by
  rw [liveTicks, List.countP_append, List.countP_singleton]
  cases m.isHalted <;> rfl

/-- A decoded instruction starts with the byte of its opcode. -/
lemma cell?_of_instruction? (hfetch : m.pc + 2 < m.ram.size) (hi : m.instruction? = some i) :
    m.ram.cell? m.pc = some i.opcode.byte := by
  obtain ⟨op, hop, rfl⟩ := Option.map_eq_some_iff.1 hi
  rw [Opcode.byte_eq_of_ofByte? hop]
  exact m.ram.cell?_of_lt (by omega)

/-- A machine that a halt stops stands at the halt. -/
lemma cell?_tick_of_hlt (h : m.retires? = some i) (hi : i.opcode = .hlt) :
    (m.perform tick).2.ram.cell? (m.perform tick).2.pc = some Opcode.hlt.byte := by
  obtain ⟨-, hfault, hserviced⟩ := retires?_eq_some_iff.1 h
  obtain ⟨-, hfetch, -⟩ := stepFault?_eq_none_iff.1 hfault
  have hagrees := (m.begun.serviced.agrees_traced i).trans m.agrees_begun.serviced
  rw [← size_ram_serviced] at hfetch
  have hcell := cell?_of_instruction? hfetch hserviced
  rw [perform_tick_of_retires? h, ← hi, ← hcell]
  obtain ⟨op, a, b⟩ := i
  obtain rfl : op = .hlt := hi
  show (m.begun.serviced.traced ⟨.hlt, a, b⟩).ram.cell?
    (m.begun.serviced.traced ⟨.hlt, a, b⟩).pc = _
  rw [hagrees.ram, hagrees.pc]

lemma retiresClass_system (h : m.retires? = some i) :
    m.retiresClass .system = decide (i.opcode = .hlt) := by
  obtain ⟨op, a, b⟩ := i
  rw [retiresClass, h]
  cases op <;> rfl

end Machine

namespace Ledger

variable {m : Machine} {past : List Machine}

lemma start (h : Ledger past m) : Ledger past m.started := by
  by_cases hidle : m.phase = .idle
  · have hrunning : m.phase ≠ .halted := by
      rw [hidle]
      decide
    refine ⟨?_, fun _ => h.live hrunning, fun hhalted => ?_⟩
    · rw [statistics_started]
      exact h.accounts
    · rw [phase_started hrunning] at hhalted
      cases hhalted
  · rw [started_of_ne_idle hidle]
    exact h

/-- What is recorded does not matter. -/
lemma journal (h : Ledger past m) (journal : Array Event) :
    Ledger past { m with journal := journal } :=
  ⟨h.accounts, h.live, h.stopped⟩

/-- One tick keeps the balance. -/
lemma tick (h : Ledger past m) : Ledger (past ++ [m]) (m.perform Machine.tick).2 := by
  have haccounts := h.accounts.tick
  cases m.outcome with
  | ignored hphase htick =>
    have hnone := retires?_of_halted hphase
    rw [htick] at haccounts ⊢
    refine ⟨haccounts, fun hgoes => absurd hphase hgoes, fun _ => ?_⟩
    rw [liveTicks_append, retirements_append, retirementsOf_append, isHalted_of_halted hphase,
      retiresClass, hnone]
    rcases h.stopped hphase with ⟨hticks, hsystem, hcell, p, hp, hhlt⟩ |
      ⟨hticks, hsystem, p, hp, hfault⟩
    · exact Or.inl ⟨hticks, hsystem, hcell, p, List.mem_append_left _ hp, hhlt⟩
    · exact Or.inr ⟨hticks, hsystem, p, List.mem_append_left _ hp, hfault⟩
  | faulted fault hphase hretires htick =>
    obtain ⟨hticks, hsystem⟩ := h.live hphase
    refine ⟨haccounts, fun hgoes => ?_, fun _ => Or.inr ⟨?_, ?_, m, ?_, fault, ?_⟩⟩
    · rw [htick] at hgoes
      exact absurd rfl hgoes
    · rw [liveTicks_append, retirements_append, isHalted_of_ne hphase, hretires, hticks]
      rfl
    · rw [retirementsOf_append, hsystem, retiresClass, hretires]
      rfl
    · exact List.mem_append_right _ (List.mem_singleton.2 rfl)
    · rw [htick]
  | retired i hphase hretires htick =>
    obtain ⟨hticks, hsystem⟩ := h.live hphase
    have hbalance : liveTicks (past ++ [m]) = retirements (past ++ [m]) := by
      rw [liveTicks_append, retirements_append, isHalted_of_ne hphase, hretires, hticks]
      rfl
    have hmore : retirementsOf .system (past ++ [m]) = _ := retirementsOf_append .system
    rw [hsystem, retiresClass_system hretires] at hmore
    have hphase' : (m.perform Machine.tick).2.phase =
        if i.opcode = .hlt then .halted else .running := by
      rw [htick, phase_carriedOut, phase_serviced, phase_begun hphase]
    refine ⟨haccounts, fun hgoes => ?_, fun hstops => Or.inl ?_⟩
    · have hne : i.opcode ≠ .hlt := by
        intro hhlt
        rw [hphase', if_pos hhlt] at hgoes
        exact hgoes rfl
      rw [decide_eq_false hne] at hmore
      exact ⟨hbalance, hmore⟩
    · have hhlt : i.opcode = .hlt := by
        by_contra hne
        rw [hphase', if_neg hne] at hstops
        cases hstops
      rw [decide_eq_true hhlt] at hmore
      refine ⟨hbalance, hmore, cell?_tick_of_hlt hretires hhlt, m, ?_, ?_⟩
      · exact List.mem_append_right _ (List.mem_singleton.2 rfl)
      · rw [retires, hretires]
        exact decide_eq_true hhlt

end Ledger

/-! ## Runs -/

namespace Machine

lemma runFor_succ_snd {m : Machine} (budget : Nat) (h : m.phase ≠ .halted) :
    (m.runFor (budget + 1)).2 = ((m.perform tick).2.runFor budget).2 := by
  rw [runFor_succ budget h]
  cases hresult : m.perform tick with
  | mk result m' =>
    cases result with
    | ok done => rfl
    | error fault =>
      have hhalted := phase_tick_of_error (congrArg Prod.fst hresult)
      rw [hresult] at hhalted
      rw [runFor_of_halted budget hhalted]

end Machine

namespace Simulator

lemma runFor_succ_snd {s : Simulator} (budget : Nat) (h : s.exit? = none) :
    (s.runFor (budget + 1)).2 = (s.tick.2.runFor budget).2 := by
  rw [runFor_succ h]
  cases hresult : s.tick with
  | mk result s' =>
    cases result with
    | ok done => rfl
    | error fault =>
      have hfault : (s.machine.perform Machine.tick).1 = .error fault :=
        congrArg Prod.fst hresult
      have hmachine : (s.machine.perform Machine.tick).2 = s'.machine :=
        congrArg (fun t => t.2.machine) hresult
      have hhalted := phase_tick_of_error hfault
      rw [hmachine] at hhalted
      rw [runFor_of_exit (exit?_of_halted hhalted)]
      rfl

end Simulator

namespace Simulator

/-- A relation between the ticks so far and the machine that they led to, which a start, a tick and
a note about the limit keep. -/
structure Kept (P : List Machine → Machine → Prop) : Prop where
  start : ∀ {past : List Machine} {m : Machine}, P past m → P past m.started
  tick : ∀ {past : List Machine} {m : Machine},
    P past m → P (past ++ [m]) (m.perform Machine.tick).2
  note : ∀ {past : List Machine} {m : Machine} (ticks : UInt64),
    P past m → P past { m with journal := m.journal.push (.tickLimitReached ticks) }

namespace Kept

variable {P : List Machine → Machine → Prop} {past : List Machine} {m : Machine} {s : Simulator}

/-- A run of the machine is some ticks. -/
lemma machineRunFor (hP : Kept P) (budget : Nat) (h : P past m) :
    P (past ++ m.tickedFor budget) (m.runFor budget).2 := by
  induction budget generalizing m past with
  | zero =>
    have hstays : (m.runFor 0).2 = m := by
      rw [Machine.runFor]
      split <;> rfl
    rw [Machine.tickedFor, List.append_nil, hstays]
    exact h
  | succ budget ih =>
    by_cases hphase : m.phase = .halted
    · rw [Machine.tickedFor, if_pos (isHalted_of_halted hphase), List.append_nil,
        runFor_of_halted _ hphase]
      exact h
    · rw [Machine.tickedFor, isHalted_of_ne hphase, Machine.runFor_succ_snd budget hphase]
      have hrest := ih (hP.tick h)
      rw [List.append_assoc] at hrest
      exact hrest

lemma close (hP : Kept P) (h : P past s.machine) (e : Exit) : P past (s.close e).machine := by
  cases e with
  | halted => exact h
  | tickLimit => exact hP.note _ h

/-- A run of the simulator is some ticks and possibly a note that the limit was reached. -/
lemma runFor (hP : Kept P) (budget : Nat) (h : P past s.machine) :
    P (past ++ s.tickedFor budget) (s.runFor budget).2.machine := by
  induction budget generalizing s past with
  | zero =>
    rw [Simulator.tickedFor, List.append_nil]
    cases hexit : s.exit? with
    | some e =>
      rw [Simulator.runFor_of_exit hexit]
      exact hP.close h e
    | none =>
      rw [Simulator.runFor, hexit]
      exact h
  | succ budget ih =>
    cases hexit : s.exit? with
    | some e =>
      rw [Simulator.tickedFor, hexit, Option.isSome_some, if_pos rfl, List.append_nil,
        Simulator.runFor_of_exit hexit]
      exact hP.close h e
    | none =>
      have hrest := ih (s := s.tick.2) (hP.tick h)
      rw [Simulator.tickedFor, hexit, Simulator.runFor_succ_snd budget hexit]
      rw [List.append_assoc] at hrest
      exact hrest

/-- So every operation keeps it. -/
lemma operate (hP : Kept P) (op : Simulator.Operation) (h : P past s.machine) :
    P (past ++ s.ticked op) (s.operate op).machine := by
  have hstarted : (s.machine.perform Machine.start).2 = s.machine.started := by
    rw [Machine.perform, start_apply]
  have hstart : P past (s.machine.perform Machine.start).2 := by
    rw [hstarted]
    exact hP.start h
  cases op with
  | start =>
    rw [Simulator.ticked, List.append_nil]
    exact hstart
  | tick => exact hP.tick h
  | runMachine budget => exact hP.machineRunFor budget hstart
  | run budget => exact hP.runFor (s := (s.perform Machine.start).2) budget hstart

lemma operateAll (hP : Kept P) (ops : List Simulator.Operation) (h : P past s.machine) :
    P (past ++ s.history ops) (s.operateAll ops).machine := by
  induction ops generalizing s past with
  | nil =>
    rw [Simulator.history, List.append_nil]
    exact h
  | cons op rest ih =>
    rw [Simulator.history, ← List.append_assoc]
    exact ih (hP.operate op h)

/-- What holds before anything was done holds whatever is done. -/
lemma history (hP : Kept P) (h : P [] s.machine) (ops : List Simulator.Operation) :
    P (s.history ops) (s.operateAll ops).machine :=
  hP.operateAll ops h

end Kept

end Simulator

namespace Ledger

variable {past : List Machine} {s : Simulator}

lemma kept : Simulator.Kept Ledger :=
  ⟨start, tick, fun _ h => h.journal _⟩

lemma operate (op : Simulator.Operation) (h : Ledger past s.machine) :
    Ledger (past ++ s.ticked op) (s.operate op).machine :=
  kept.operate op h

end Ledger

/-! ## Sums of counters -/

/-- Every retired instruction belongs to one class. -/
lemma retirements_eq (past : List Machine) :
    retirements past =
      retirementsOf .alu past + retirementsOf .load past + retirementsOf .branch past
        + retirementsOf .output past + retirementsOf .interrupt past
        + retirementsOf .system past := by
  induction past with
  | nil => rfl
  | cons p rest ih =>
    have hone : (if p.retires?.isSome then 1 else 0) =
        (if p.retiresClass .alu then 1 else 0) + (if p.retiresClass .load then 1 else 0)
          + (if p.retiresClass .branch then 1 else 0) + (if p.retiresClass .output then 1 else 0)
          + (if p.retiresClass .interrupt then 1 else 0)
          + (if p.retiresClass .system then 1 else 0) := by
      cases hretires : p.retires? with
      | none =>
        simp only [retiresClass, hretires, Option.isSome_none, Option.any_none]
        rfl
      | some i =>
        simp only [retiresClass, hretires, Option.isSome_some, Option.any_some]
        cases i.opcode.instructionClass <;> rfl
    simp only [retirements, retirementsOf, List.countP_cons] at ih ⊢
    omega

/-- The jumps that are always taken and the two whose condition holds are all that are taken. -/
lemma countP_takesBranch (past : List Machine) :
    past.countP takesBranch =
      past.countP (fun p => p.retires .jmp) + past.countP (fun p => p.retires .call)
        + past.countP (fun p => p.retires .iret)
        + past.countP (fun p => p.retires .jeq && p.entered.flags.equal)
        + past.countP (fun p => p.retires .jne && !p.entered.flags.equal) := by
  induction past with
  | nil => rfl
  | cons p rest ih =>
    have hone : (if p.takesBranch then 1 else 0) =
        (if p.retires .jmp then 1 else 0) + (if p.retires .call then 1 else 0)
          + (if p.retires .iret then 1 else 0)
          + (if p.retires .jeq && p.entered.flags.equal then 1 else 0)
          + (if p.retires .jne && !p.entered.flags.equal then 1 else 0) := by
      cases hretires : p.retires? with
      | none =>
        simp only [takesBranch, retires, hretires, Option.any_none]
        rfl
      | some i =>
        simp only [takesBranch, retires, hretires, Option.any_some]
        cases i.opcode with
        | jeq | jne =>
          simp only [Opcode.jumps, flags_snapshot_mod_two]
          cases p.entered.flags.equal <;> rfl
        | _ => rfl
    simp only [List.countP_cons] at ih ⊢
    omega

lemma countP_takesBranch_le (past : List Machine) :
    past.countP takesBranch ≤ retirementsOf .branch past + retirementsOf .interrupt past := by
  induction past with
  | nil => exact Nat.zero_le _
  | cons p rest ih =>
    have hone : (if p.takesBranch then 1 else 0) ≤
        (if p.retiresClass .branch then 1 else 0)
          + (if p.retiresClass .interrupt then 1 else 0) := by
      cases hretires : p.retires? with
      | none => simp [takesBranch, hretires]
      | some i =>
        simp only [takesBranch, retiresClass, hretires, Option.any_some]
        cases i.opcode with
        | jeq | jne => split <;> simp [Opcode.instructionClass]
        | _ => simp [Opcode.jumps, Opcode.instructionClass]
    simp only [retirementsOf, List.countP_cons] at ih ⊢
    omega

/-- A word counts ticks of a certain kind as long as there were not too many ticks. -/
lemma toNat_ofNat_countP {past : List Machine} {q : Machine → Bool}
    (hq : ∀ p, q p = true → p.isHalted = false) (hpast : liveTicks past < 2 ^ 64) :
    (UInt64.ofNat (past.countP q)).toNat = past.countP q := by
  have hle : past.countP q ≤ liveTicks past := by
    refine List.countP_mono_left fun p _ hp => ?_
    rw [hq p hp]
    rfl
  exact UInt64.toNat_ofNat_of_lt' (hle.trans_lt hpast)

/-! ## The whole account -/

namespace Simulator

/-- Operations on a simulator with a loaded program have led to the machine, and the machines in
`past` got their ticks. -/
def Operated (program : List UInt8) (c : Config) (output : Output) (past : List Machine)
    (m : Machine) : Prop :=
  ∃ s ops, load program c output = .ok s
    ∧ past = s.history ops ∧ m = (s.operateAll ops).machine

lemma Operated.ledger {program : List UInt8} {c : Config} {output : Output} {past : List Machine}
    {m : Machine} (h : Operated program c output past m) : Ledger past m := by
  obtain ⟨s, ops, hload, rfl, rfl⟩ := h
  obtain ⟨-, -, rfl⟩ := load_eq_ok_iff.1 hload
  have hidle : (loaded program c output).phase ≠ .halted := by
    intro hhalted
    cases hhalted
  have hempty : Ledger [] (loaded program c output) :=
    ⟨.empty, fun _ => ⟨rfl, rfl⟩, fun hhalted => absurd hhalted hidle⟩
  exact Ledger.kept.history (s := ⟨loaded program c output, .ofConfig c, c.maxTicks⟩) hempty ops

/-- **Statistics account for every tick.**  Whatever is done to a simulator after a program was
loaded, and as long as its machine had fewer than `2 ^ 64` ticks, the retired instructions are
those of the six classes; while the machine goes on there is one for every tick and no halt among
them; when it has stopped, it stands at the one halt that retired, or one tick ended in a fault and
retired nothing; and the branches taken are the jumps, calls and returns that retired, a conditional
jump being one of them if its condition held. -/
theorem statistics_account_for_every_tick {program : List UInt8} {c : Config} {output : Output}
    {past : List Machine} {m : Machine} (h : Operated program c output past m)
    (hticks : past.countP (fun p => !p.isHalted) < 2 ^ 64) :
    m.statistics.retired.toNat =
        m.statistics.alu.toNat + m.statistics.load.toNat + m.statistics.branch.toNat
          + m.statistics.output.toNat + m.statistics.interrupt.toNat
          + m.statistics.system.toNat
      ∧ (m.phase ≠ .halted →
          m.statistics.ticks = m.statistics.retired ∧ m.statistics.system = 0)
      ∧ (m.phase = .halted →
          (m.statistics.ticks = m.statistics.retired ∧ m.statistics.system = 1
              ∧ m.ram.cell? m.pc = some Opcode.hlt.byte ∧ ∃ p ∈ past, p.retires .hlt = true)
            ∨ (m.statistics.ticks.toNat = m.statistics.retired.toNat + 1
              ∧ m.statistics.system = 0
              ∧ ∃ p ∈ past, ∃ fault, (p.perform Machine.tick).1 = .error fault))
      ∧ m.statistics.branchesTaken.toNat =
          past.countP (fun p => p.retires .jmp) + past.countP (fun p => p.retires .call)
            + past.countP (fun p => p.retires .iret)
            + past.countP (fun p => p.retires .jeq && p.entered.flags.equal)
            + past.countP (fun p => p.retires .jne && !p.entered.flags.equal)
      ∧ m.statistics.branchesTaken.toNat ≤
          m.statistics.branch.toNat + m.statistics.interrupt.toNat := by
  obtain ⟨haccounts, hlive, hstopped⟩ := h.ledger
  have hlivePast : m.statistics.ticks.toNat = liveTicks past := by
    rw [haccounts.ticks]
    exact toNat_ofNat_countP (fun p hp => by simpa using hp) hticks
  have hretired : m.statistics.retired.toNat = retirements past := by
    rw [haccounts.retired]
    exact toNat_ofNat_countP (fun p => isHalted_of_isSome) hticks
  have hclass : ∀ d, (m.statistics.ofClass d).toNat = retirementsOf d past := by
    intro d
    rw [haccounts.ofClass]
    exact toNat_ofNat_countP (fun p => isHalted_of_any) hticks
  have hbranches : m.statistics.branchesTaken.toNat = past.countP takesBranch := by
    rw [haccounts.branchesTaken]
    exact toNat_ofNat_countP (fun p => isHalted_of_any) hticks
  have hsystem : ∀ n : UInt64, retirementsOf .system past = n.toNat → m.statistics.system = n :=
    fun n hn => UInt64.toNat.inj ((hclass .system).trans hn)
  refine ⟨?_, fun hgoes => ?_, fun hhalted => ?_, ?_, ?_⟩
  · calc m.statistics.retired.toNat = retirements past := hretired
      _ = _ := retirements_eq past
      _ = _ := by
        simp only [← hclass]
        rfl
  · obtain ⟨hbalance, hnone⟩ := hlive hgoes
    exact ⟨UInt64.toNat.inj (by rw [hlivePast, hretired, hbalance]), hsystem 0 hnone⟩
  · rcases hstopped hhalted with ⟨hbalance, hone, hcell, hhlt⟩ | ⟨hbalance, hnone, hfault⟩
    · exact Or.inl ⟨UInt64.toNat.inj (by rw [hlivePast, hretired, hbalance]), hsystem 1 hone,
        hcell, hhlt⟩
    · exact Or.inr ⟨by rw [hlivePast, hretired, hbalance], hsystem 0 hnone, hfault⟩
  · rw [hbranches, countP_takesBranch]
  · calc m.statistics.branchesTaken.toNat = past.countP takesBranch := hbranches
      _ ≤ retirementsOf .branch past + retirementsOf .interrupt past := countP_takesBranch_le past
      _ = _ := by
        simp only [← hclass]
        rfl

/-- A program that jumps over its halt and back to it. -/
def jumpingBack : List UInt8 :=
  [0x99, 0, 6, 0x54, 0, 0x01, 0xA0, 0, 0, 0x99, 0, 5, 0x51, 0]

/-- Six of the ticks count, one before the machine runs by itself for two, three of a run with a
budget for more, and none after the halt. -/
theorem statistics_account_for_every_tick_jumpingBack :
    ∃ past m, Operated jumpingBack {} .unlimited past m
      ∧ m.phase = .halted
      ∧ m.statistics.ticks = 6
      ∧ m.statistics.retired = 6
      ∧ m.statistics.branchesTaken.toNat = 2
      ∧ m.ram.cell? m.pc = some Opcode.hlt.byte := by
  let ops : List Operation := [.tick, .start, .runMachine 2, .run 9, .tick]
  obtain ⟨s, hload, hs⟩ : ∃ s, load jumpingBack {} .unlimited = .ok s
      ∧ s = ⟨loaded jumpingBack {} .unlimited, .ofConfig {}, none⟩ :=
    ⟨_, load_eq_ok_iff.2 ⟨(Config.validate_eq_ok_iff _).1 rfl, by decide, rfl⟩, rfl⟩
  have hoperated : Operated jumpingBack {} .unlimited (s.history ops) (s.operateAll ops).machine :=
    ⟨s, ops, hload, rfl, rfl⟩
  have hpast : (s.history ops).countP (fun p => !p.isHalted) = 6 := by
    rw [hs]
    decide +kernel
  have hticks : (s.operateAll ops).machine.statistics.ticks = 6 := by
    rw [hs]
    decide +kernel
  have hsystem : (s.operateAll ops).machine.statistics.system = 1 := by
    rw [hs]
    decide +kernel
  have hhalted : (s.operateAll ops).machine.phase = .halted := by
    rw [hs]
    decide +kernel
  obtain ⟨-, -, hstopped, hbranches, -⟩ :=
    statistics_account_for_every_tick hoperated (by rw [hpast]; decide)
  refine ⟨_, _, hoperated, hhalted, hticks, ?_, ?_, ?_⟩
  · rcases hstopped hhalted with ⟨hbalance, -⟩ | ⟨-, hnone, -⟩
    · rw [← hbalance, hticks]
    · rw [hsystem] at hnone
      cases hnone
  · rw [hbranches, hs]
    decide +kernel
  · rcases hstopped hhalted with ⟨-, -, hcell, -⟩ | ⟨-, hnone, -⟩
    · exact hcell
    · rw [hsystem] at hnone
      cases hnone

end Simulator

end LS8
