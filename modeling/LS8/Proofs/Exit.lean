import LS8.Proofs.Accounting

/-!
# Runs that report a halt

A machine that a halt has stopped and one that a fault has stopped are in the same phase of life,
and the loop of a simulator looks at nothing else.  The run in which the fault arises reports it.
Every run after it reports a halt that there never was, and does nothing.

The ledger of the ticks tells the two apart.  A tick that ends in a fault is one that retires
nothing, so if there was one, no halt has retired and the machine has stopped; and if there was
none, a run that reports a halt has its machine standing at the one that retired.
-/

namespace LS8

open Machine

namespace Machine

variable {past : List Machine} {p : Machine} {fault : Fault}

lemma retirements_le_liveTicks (past : List Machine) : retirements past ≤ liveTicks past := by
  refine List.countP_mono_left fun p _ hp => ?_
  rw [isHalted_of_isSome hp]
  rfl

/-- A tick that ends in a fault retires nothing. -/
lemma retires?_of_fault (h : (p.perform tick).1 = .error fault) :
    p.isHalted = false ∧ p.retires? = none := by
  cases p.outcome with
  | ignored hphase htick =>
    rw [htick] at h
    cases h
  | faulted fault' hphase hretires htick => exact ⟨isHalted_of_ne hphase, hretires⟩
  | retired i hphase hretires htick =>
    rw [htick] at h
    cases h

lemma retirements_lt_liveTicks (hp : p ∈ past) (h : (p.perform tick).1 = .error fault) :
    retirements past < liveTicks past := by
  obtain ⟨hlive, hretires⟩ := retires?_of_fault h
  obtain ⟨before, after, rfl⟩ := List.append_of_mem hp
  have hbefore := retirements_le_liveTicks before
  have hafter := retirements_le_liveTicks after
  simp only [retirements, liveTicks, List.countP_append, List.countP_cons, hlive, hretires]
    at hbefore hafter ⊢
  simp
  omega

end Machine

namespace Ledger

variable {past : List Machine} {m p : Machine} {fault : Fault}

lemma system (h : Ledger past m) :
    m.statistics.system = UInt64.ofNat (retirementsOf .system past) :=
  h.accounts.ofClass .system

/-- Once a tick has ended in a fault the machine has stopped, and not at a halt. -/
lemma of_fault (h : Ledger past m) (hp : p ∈ past)
    (hfault : (p.perform Machine.tick).1 = .error fault) :
    m.phase = .halted ∧ m.statistics.system = 0 := by
  have hlt := Machine.retirements_lt_liveTicks hp hfault
  have hhalted : m.phase = .halted := by
    by_contra hgoes
    obtain ⟨hbalance, -⟩ := h.live hgoes
    omega
  obtain ⟨hbalance, -⟩ | ⟨-, hnone, -⟩ := h.stopped hhalted
  · omega
  · rw [h.system, hnone]
    exact ⟨hhalted, rfl⟩

end Ledger

namespace Simulator

variable {s : Simulator} {budget : Nat}

/-- A run of a halted machine reports the halt and does nothing. -/
lemma run_of_halted (h : s.machine.phase = .halted) (budget : Nat) :
    s.run budget = (some (.ok .halted), s) := by
  have hstarted : s.machine.started = s.machine := Machine.started_of_ne_idle (by rw [h]; decide)
  rw [run_eq, hstarted]
  exact runFor_of_exit (exit?_of_halted h) budget

lemma tickedFor_of_exit {e : Exit} (h : s.exit? = some e) (budget : Nat) :
    s.tickedFor budget = [] := by
  cases budget with
  | zero => rfl
  | succ budget => rw [tickedFor, h, Option.isSome_some, if_pos rfl]

lemma exit?_eq_halted_iff : s.exit? = some .halted ↔ s.machine.phase = .halted := by
  refine ⟨fun h => ?_, exit?_of_halted⟩
  by_contra hphase
  rw [exit?_of_running hphase] at h
  split at h <;> cases h

/-- A run that reports a halt leaves a halted machine behind, and none of its ticks has ended in a
fault. -/
lemma runFor_eq_halted (h : (s.runFor budget).1 = some (.ok .halted)) :
    (s.runFor budget).2.machine.phase = .halted
      ∧ ∀ p ∈ s.tickedFor budget, (p.perform Machine.tick).1 = .ok () := by
  induction budget generalizing s with
  | zero =>
    refine ⟨?_, fun p hp => absurd hp List.not_mem_nil⟩
    cases hexit : s.exit? with
    | none =>
      rw [runFor, hexit] at h
      cases h
    | some e =>
      rw [runFor_of_exit hexit] at h ⊢
      cases h
      exact exit?_eq_halted_iff.1 hexit
  | succ budget ih =>
    cases hexit : s.exit? with
    | some e =>
      rw [tickedFor_of_exit hexit]
      rw [runFor_of_exit hexit] at h ⊢
      cases h
      exact ⟨exit?_eq_halted_iff.1 hexit, fun p hp => absurd hp List.not_mem_nil⟩
    | none =>
      have hticked : s.tickedFor (budget + 1) = s.machine :: s.tick.2.tickedFor budget := by
        rw [tickedFor, hexit]
        rfl
      rw [hticked, runFor_succ_snd budget hexit]
      rw [runFor_succ hexit] at h
      cases hresult : s.tick with
      | mk result s' =>
        rw [hresult] at h
        cases result with
        | error fault => cases h
        | ok done =>
          obtain ⟨hhalted, hquiet⟩ := ih h
          refine ⟨hhalted, fun p hp => ?_⟩
          obtain rfl | hlater := List.mem_cons.1 hp
          · exact congrArg Prod.fst hresult
          · exact hquiet p hlater

lemma history_append_singleton (ops : List Operation) (op : Operation) :
    s.history (ops ++ [op]) = s.history ops ++ (s.operateAll ops).ticked op := by
  induction ops generalizing s with
  | nil => exact List.append_nil _
  | cons first rest ih =>
    rw [List.cons_append, history, ih, history, operateAll, List.append_assoc]

/-- **Runs that report a halt.**  Once a tick of a simulator has ended in a fault, every run of it
reports a halt, although no `HLT` has retired, and does nothing.  As long as none has, a run that
reports a halt has its machine at the one `HLT` that retired, whatever was done to the simulator
before. -/
theorem run_reports_halt {program : List UInt8} {c : Config} {output : Output}
    (hload : load program c output = .ok s) (ops : List Operation) :
    ((∃ p ∈ s.history ops, ∃ fault, (p.perform Machine.tick).1 = .error fault) →
        (s.operateAll ops).machine.statistics.system = 0
          ∧ ∀ budget, (s.operateAll ops).run budget = (some (.ok .halted), s.operateAll ops))
      ∧ ((¬ ∃ p ∈ s.history ops, ∃ fault, (p.perform Machine.tick).1 = .error fault) →
        ∀ budget, ((s.operateAll ops).run budget).1 = some (.ok .halted) →
          ((s.operateAll ops).run budget).2.machine.statistics.system = 1
            ∧ ((s.operateAll ops).run budget).2.machine.ram.cell?
                ((s.operateAll ops).run budget).2.machine.pc = some Opcode.hlt.byte
            ∧ ∃ p ∈ s.history (ops ++ [.run budget]), p.retires .hlt = true) := by
  have hledger : Ledger (s.history ops) (s.operateAll ops).machine :=
    Operated.ledger ⟨s, ops, hload, rfl, rfl⟩
  constructor
  · rintro ⟨p, hp, fault, hfault⟩
    obtain ⟨hhalted, hnone⟩ := hledger.of_fault hp hfault
    exact ⟨hnone, run_of_halted hhalted⟩
  · intro hquiet budget hresult
    have hrun : Ledger _ ((s.operateAll ops).run budget).2.machine :=
      hledger.operate (.run budget)
    obtain ⟨hhalted, hticked⟩ := runFor_eq_halted hresult
    rw [history_append_singleton]
    obtain ⟨-, hone, hcell, hhlt⟩ | ⟨-, -, p, hp, fault, hfault⟩ := hrun.stopped hhalted
    · rw [hrun.system, hone]
      exact ⟨rfl, hcell, hhlt⟩
    · obtain hbefore | hnow := List.mem_append.1 hp
      · exact absurd ⟨p, hbefore, fault, hfault⟩ hquiet
      · have hok := hticked p hnow
        rw [hfault] at hok
        cases hok

/-- A program that loads a number and halts. -/
def loadingOnce : List UInt8 := [0x99, 0, 1, 0x01]

/-- A tick and a run under way to the halt, and a program that begins with no instruction. -/
theorem run_reports_halt_loadingOnce :
    (∃ s, load loadingOnce {} .unlimited = .ok s
        ∧ ((s.operateAll [.tick]).run 1).1 = some (.ok .halted)
        ∧ ((s.operateAll [.tick]).run 1).2.machine.statistics.system = 1)
      ∧ ∃ s, load [0xFF] {} .unlimited = .ok s
        ∧ (s.operateAll [.tick]).machine.statistics.system = 0
        ∧ (s.operateAll [.tick]).run 1 = (some (.ok .halted), s.operateAll [.tick]) := by
  have hvalid : ({} : Config).Valid := (Config.validate_eq_ok_iff _).1 rfl
  constructor
  · have hload : load loadingOnce {} .unlimited = .ok _ :=
      load_eq_ok_iff.2 ⟨hvalid, by decide, rfl⟩
    have hresult : ((operateAll [.tick]
        ⟨loaded loadingOnce {} .unlimited, .ofConfig {}, none⟩).run 1).1 = some (.ok .halted) := by
      decide +kernel
    have hticked : ((loaded loadingOnce {} .unlimited).perform Machine.tick).1 = .ok () := by
      decide +kernel
    refine ⟨_, hload, hresult, ((run_reports_halt hload [.tick]).2 ?_ 1 hresult).1⟩
    rintro ⟨p, hp, fault, hfault⟩
    obtain rfl := List.mem_singleton.1 hp
    rw [hticked] at hfault
    cases hfault
  · have hload : load [0xFF] {} .unlimited = .ok _ := load_eq_ok_iff.2 ⟨hvalid, by decide, rfl⟩
    have hticked : ((loaded [0xFF] {} .unlimited).perform Machine.tick).1 =
        .error (.unknownOpcode 0xFF 0) := by
      decide +kernel
    obtain ⟨hnone, hruns⟩ :=
      (run_reports_halt hload [.tick]).1 ⟨_, List.mem_singleton.2 rfl, _, hticked⟩
    exact ⟨_, hload, hnone, hruns 1⟩

/-- The first run reports the fault, the second a halt. -/
theorem halt_reported_after_fault :
    ∃ s, load [0xFF] {} .unlimited = .ok s
      ∧ (s.run 1).1 = some (.error (.unknownOpcode 0xFF 0))
      ∧ ((s.run 1).2.run 1).1 = some (.ok .halted)
      ∧ ((s.run 1).2.run 1).2.machine.statistics.system = 0 := by
  refine ⟨_, load_eq_ok_iff.2 ⟨(Config.validate_eq_ok_iff _).1 rfl, by decide, rfl⟩, ?_⟩
  decide +kernel

end Simulator

end LS8
