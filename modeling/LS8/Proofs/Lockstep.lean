import LS8.Proofs.Run

/-!
# Machines in lockstep

Two machines that differ in something no instruction can see do the same.  What they may differ in
is a relation `R` between machines.  An action is in lockstep under `R` if it answers alike on
related machines and leaves related machines behind (`Lockstep`).  That is preserved by sequencing,
so an action is in lockstep if its parts are, and a relation that the parts of the machine respect
(`Simulation`) has every tick in lockstep, and every run.

The relation need not be symmetric, and some faults of the first machine may be excused: about
them, and about what comes after them, nothing is said.
-/

namespace LS8

/-- The event reports an instruction that is about to be executed. -/
def Event.isDecoded : Event → Bool
  | decoded .. => true
  | _ => false

namespace Machine

variable {α β : Type} {R : Machine → Machine → Prop} {excused : Fault → Prop} {m m' : Machine}

/-! ## Results in lockstep -/

/-- The results of an action on two machines are the same and leave related machines behind, or the
first is a fault that is excused. -/
def Mirrors (R : Machine → Machine → Prop) (excused : Fault → Prop) :
    EStateM.Result Fault Machine α → EStateM.Result Fault Machine α → Prop
  | .ok a n, .ok a' n' => a = a' ∧ R n n'
  | .error fault n, .error fault' n' => excused fault ∨ (fault = fault' ∧ R n n')
  | .error fault _, .ok _ _ => excused fault
  | .ok _ _, .error _ _ => False

/-- An action does the same on related machines. -/
def Lockstep (R : Machine → Machine → Prop) (excused : Fault → Prop) (x : Action α) : Prop :=
  ∀ ⦃m m' : Machine⦄, R m m' → Mirrors R excused (x m) (x m')

lemma Mirrors.of_excused {fault : Fault} (h : excused fault) (n : Machine)
    (r : EStateM.Result Fault Machine α) : Mirrors R excused (.error fault n) r := by
  cases r with
  | ok a n' => exact h
  | error fault' n' => exact Or.inl h

namespace Mirrors

/-- Two actions with the same results go on with the same results. -/
lemma bind {x x' : Action α} {f f' : α → Action β} (hx : Mirrors R excused (x m) (x' m'))
    (hf : ∀ a ⦃n n'⦄, R n n' → Mirrors R excused (f a n) (f' a n')) :
    Mirrors R excused ((x >>= f) m) ((x' >>= f') m') := by
  rw [bind_apply, bind_apply]
  cases hm : x m with
  | ok a n =>
    cases hm' : x' m' with
    | ok a' n' =>
      rw [hm, hm'] at hx
      obtain ⟨rfl, hrest⟩ := hx
      exact hf a hrest
    | error fault' n' =>
      rw [hm, hm'] at hx
      exact hx.elim
  | error fault n =>
    cases hm' : x' m' with
    | ok a' n' =>
      rw [hm, hm'] at hx
      exact .of_excused hx ..
    | error fault' n' =>
      rw [hm, hm'] at hx
      exact hx

/-- Halting the machines where both actions fault. -/
lemma haltOnFault {x x' : Action Unit} (hx : Mirrors R excused (x m) (x' m'))
    (hstop : ∀ ⦃m m'⦄ fault, R m m' → R (m.stop fault) (m'.stop fault)) :
    Mirrors R excused (haltOnFault x m) (haltOnFault x' m') := by
  rw [Machine.haltOnFault, Machine.haltOnFault]
  cases hm : x m with
  | ok a n =>
    cases hm' : x' m' with
    | ok a' n' =>
      rw [hm, hm'] at hx
      exact hx
    | error fault' n' =>
      rw [hm, hm'] at hx
      exact hx.elim
  | error fault n =>
    cases hm' : x' m' with
    | ok a' n' =>
      rw [hm, hm'] at hx
      exact .of_excused hx ..
    | error fault' n' =>
      rw [hm, hm'] at hx
      obtain hexcused | ⟨rfl, hrest⟩ := hx
      · exact .of_excused hexcused ..
      · exact Or.inr ⟨rfl, hstop fault hrest⟩

/-- Unless the first result is a fault that is excused, the answers are the same and the machines
related. -/
lemma perform {x x' : Action α} (hx : Mirrors R excused (x m) (x' m'))
    (hfault : ∀ fault, (m.perform x).1 = .error fault → ¬ excused fault) :
    (m.perform x).1 = (m'.perform x').1 ∧ R (m.perform x).2 (m'.perform x').2 := by
  unfold Machine.perform at hfault ⊢
  cases hm : x m with
  | ok a n =>
    cases hm' : x' m' with
    | ok a' n' =>
      rw [hm, hm'] at hx
      obtain ⟨rfl, hrest⟩ := hx
      exact ⟨rfl, hrest⟩
    | error fault' n' =>
      rw [hm, hm'] at hx
      exact hx.elim
  | error fault n =>
    rw [hm] at hfault
    have hnot : ¬ excused fault := hfault fault rfl
    cases hm' : x' m' with
    | ok a' n' =>
      rw [hm, hm'] at hx
      exact absurd hx hnot
    | error fault' n' =>
      rw [hm, hm'] at hx
      obtain ⟨rfl, hrest⟩ := hx.resolve_left hnot
      exact ⟨rfl, hrest⟩

end Mirrors

namespace Lockstep

lemma pure (a : α) : Lockstep R excused (Pure.pure a : Action α) :=
  fun _ _ h => ⟨rfl, h⟩

lemma bind {x : Action α} {f : α → Action β} (hx : Lockstep R excused x)
    (hf : ∀ a, Lockstep R excused (f a)) : Lockstep R excused (x >>= f) :=
  fun _ _ h => (hx h).bind fun a _ _ hrest => hf a hrest

/-- An action that looks at nothing in which related machines differ. -/
lemma get_bind {f : Machine → Action β} (hsame : ∀ ⦃m m'⦄, R m m' → f m = f m')
    (hf : ∀ m, Lockstep R excused (f m)) :
    Lockstep R excused ((get : Action Machine) >>= f) := by
  intro m m' h
  rw [get_bind_apply, get_bind_apply, ← hsame h]
  exact hf m h

lemma faultAtPc (hpc : ∀ ⦃m m'⦄, R m m' → m.pc = m'.pc) (fault : Nat → Fault) :
    Lockstep R excused (faultAtPc fault : Action α) := by
  intro m m' h
  rw [faultAtPc_apply, faultAtPc_apply, hpc h]
  exact Or.inr ⟨rfl, h⟩

/-- Machines with the same memory read the same in it. -/
lemma readCell (hram : ∀ ⦃m m'⦄, R m m' → m.ram = m'.ram) (address : Nat) :
    Lockstep R excused (readCell address) := by
  intro m m' h
  rw [readCell_apply, readCell_apply, hram h]
  split
  · exact ⟨rfl, h⟩
  · exact Or.inr ⟨rfl, h⟩

lemma writeCell (hram : ∀ ⦃m m'⦄, R m m' → m.ram = m'.ram)
    (hwith : ∀ ⦃m m'⦄ ram, R m m' → R { m with ram := ram } { m' with ram := ram })
    (address : Nat) (v : UInt8) : Lockstep R excused (writeCell address v) := by
  intro m m' h
  rw [writeCell_apply, writeCell_apply, hram h]
  split
  · exact ⟨rfl, hwith _ h⟩
  · exact Or.inr ⟨rfl, h⟩

/-- Halting the machine when an action faults is in lockstep as well. -/
lemma haltOnFault {x : Action Unit} (hx : Lockstep R excused x)
    (hstop : ∀ ⦃m m'⦄ fault, R m m' → R (m.stop fault) (m'.stop fault)) :
    Lockstep R excused (haltOnFault x) :=
  fun _ _ h => (hx h).haltOnFault hstop

end Lockstep

/-! ## Relations that respect the parts of a machine -/

/-- Prints a byte as an instruction does, faulting if the output refuses it. -/
def printOrFault (v : UInt8) : Action Flow := do
  match ← print v with
  | .ok () => return .next
  | .error failure => faultAtPc (.output failure)

/-- Records an instruction that has been decoded, if the machine is tracing. -/
def recordDecoded (i : Instruction) : Action Unit := do
  let m ← get
  if m.tracing then
    Machine.emit (.decoded m.pc i)

/-- Records that the machine has halted. -/
def recordHalted : Action Unit := do
  let m ← get
  Machine.emit (.halted m.pc m.statistics.ticks)

namespace Lockstep

lemma printOrFault (hpc : ∀ ⦃m m'⦄, R m m' → m.pc = m'.pc) {v : UInt8}
    (hprint : Lockstep R excused (print v)) : Lockstep R excused (printOrFault v) := by
  refine hprint.bind fun printed => ?_
  cases printed with
  | ok done => exact .pure _
  | error failure => exact .faultAtPc hpc _

section

variable (hjournal : ∀ ⦃m m'⦄ j j', R m m' → R { m with journal := j } { m' with journal := j' })
include hjournal

/-! A relation that leaves the journals free has everything that is recorded in lockstep. -/

lemma emit (e : Event) : Lockstep R excused (emit e) :=
  fun _ _ h => ⟨rfl, hjournal _ _ h⟩

lemma recordDecoded (i : Instruction) : Lockstep R excused (recordDecoded i) := by
  intro m m' h
  simp only [Machine.recordDecoded, get_bind_apply]
  split <;> split <;> exact ⟨rfl, hjournal _ _ h⟩

lemma recordHalted : Lockstep R excused recordHalted :=
  fun _ _ h => ⟨rfl, hjournal _ _ h⟩

end

end Lockstep

/-- Related machines have the same registers, program counter, flags, phase and interrupt enable,
and stay related when these change alike.  What a machine counts, records, prints and does to its
memory is in lockstep. -/
structure Simulation (R : Machine → Machine → Prop) (excused : Fault → Prop) : Prop where
  registers : ∀ {m m'}, R m m' → m.registers = m'.registers
  pc : ∀ {m m'}, R m m' → m.pc = m'.pc
  flags : ∀ {m m'}, R m m' → m.flags = m'.flags
  phase : ∀ {m m'}, R m m' → m.phase = m'.phase
  interruptsEnabled : ∀ {m m'}, R m m' → m.interruptsEnabled = m'.interruptsEnabled
  withRegisters : ∀ {m m'} rs, R m m' → R { m with registers := rs } { m' with registers := rs }
  withPc : ∀ {m m'} pc, R m m' → R { m with pc := pc } { m' with pc := pc }
  withFlags : ∀ {m m'} f, R m m' → R { m with flags := f } { m' with flags := f }
  withPhase : ∀ {m m'} phase, R m m' → R { m with phase := phase } { m' with phase := phase }
  withInterrupts : ∀ {m m'} enabled, R m m' →
    R { m with interruptsEnabled := enabled } { m' with interruptsEnabled := enabled }
  emit : ∀ e, e.isDecoded = false → Lockstep R excused (emit e)
  recordDecoded : ∀ i, Lockstep R excused (recordDecoded i)
  recordHalted : Lockstep R excused recordHalted
  countTick : Lockstep R excused (count fun s => { s with ticks := s.ticks + 1 })
  countRetired : ∀ c, Lockstep R excused (count fun s => s.retire c)
  countBranch : Lockstep R excused (count fun s => { s with branchesTaken := s.branchesTaken + 1 })
  countInterrupt : Lockstep R excused
    (count fun s => { s with interruptsServiced := s.interruptsServiced + 1 })
  readCell : ∀ address, Lockstep R excused (readCell address)
  writeCell : ∀ address v, Lockstep R excused (writeCell address v)
  print : ∀ v, Lockstep R excused (printOrFault v)

namespace Simulation

variable (sim : Simulation R excused)
include sim

/-! ## Registers and the stack -/

lemma faultAtPc (fault : Nat → Fault) : Lockstep R excused (faultAtPc fault : Action α) :=
  .faultAtPc (fun _ _ h => sim.pc h) fault

lemma readRegister (r : Register) : Lockstep R excused (readRegister r) := by
  intro m m' h
  rw [readRegister_apply, readRegister_apply, sim.registers h]
  exact ⟨rfl, h⟩

lemma writeRegister (r : Register) (v : UInt8) : Lockstep R excused (writeRegister r v) := by
  intro m m' h
  rw [writeRegister_apply, writeRegister_apply, sim.registers h]
  exact ⟨rfl, sim.withRegisters _ h⟩

lemma setFlags (f : Flags) : Lockstep R excused (setFlags f) :=
  fun _ _ h => ⟨rfl, sim.withFlags f h⟩

lemma setPc (address : Nat) : Lockstep R excused (setPc address) :=
  fun _ _ h => ⟨rfl, sim.withPc address h⟩

lemma setPhase (phase : Phase) : Lockstep R excused (setPhase phase) :=
  fun _ _ h => ⟨rfl, sim.withPhase phase h⟩

lemma operand (b : UInt8) : Lockstep R excused (operand b) := by
  rw [Machine.operand]
  cases Register.ofByte? b with
  | some r => exact .pure r
  | none => exact sim.faultAtPc _

lemma readOperand (b : UInt8) : Lockstep R excused (readOperand b) :=
  (sim.operand b).bind fun r => sim.readRegister r

lemma push (v : UInt8) : Lockstep R excused (push v) :=
  (sim.readRegister _).bind fun _ => (sim.writeCell _ v).bind fun _ =>
    (sim.writeRegister _ _).bind fun _ => sim.emit _ rfl

lemma pop : Lockstep R excused pop :=
  (sim.readRegister _).bind fun _ => (sim.readCell _).bind fun v =>
    (sim.writeRegister _ _).bind fun _ => (sim.emit _ rfl).bind fun _ => .pure v

lemma pushAll (vs : List UInt8) : Lockstep R excused (pushAll vs) := by
  induction vs with
  | nil => exact .pure ()
  | cons v rest ih => exact (sim.push v).bind fun _ => ih

lemma popInto (rs : List Register) : Lockstep R excused (popInto rs) := by
  induction rs with
  | nil => exact .pure ()
  | cons r rest ih => exact sim.pop.bind fun v => (sim.writeRegister r v).bind fun _ => ih

/-! ## Interrupts -/

lemma setInterrupts (enabled : Bool) : Lockstep R excused (setInterrupts enabled) :=
  fun _ _ h => ⟨rfl, sim.withInterrupts enabled h⟩

lemma raiseInterrupt (b : UInt8) : Lockstep R excused (raiseInterrupt b) := by
  refine (sim.operand b).bind fun r => (sim.readRegister r).bind fun number => ?_
  split
  · exact (sim.readRegister _).bind fun _ => (sim.writeRegister _ _).bind fun _ =>
      (sim.emit _ rfl).bind fun _ => .pure _
  · exact sim.faultAtPc _

lemma dispatch (line : Nat) : Lockstep R excused (dispatch line) := by
  refine (sim.readRegister _).bind fun _ => (sim.writeRegister _ _).bind fun _ =>
    (sim.setInterrupts _).bind fun _ => .get_bind ?_ fun m => .get_bind ?_ fun n => ?_
  · intro m m' h
    rw [sim.pc h]
  · intro n n' h
    rw [frame_eq, frame_eq, sim.pc h, sim.flags h, sim.registers h]
  · exact (sim.pushAll _).bind fun _ => (sim.readCell _).bind fun vector =>
      (sim.emit _ rfl).bind fun _ => (sim.setPc _).bind fun _ => sim.countInterrupt

lemma serviceInterrupts : Lockstep R excused serviceInterrupts := by
  refine .get_bind ?_ fun m => ?_
  · intro m m' h
    rw [dueLine?, dueLine?, sim.interruptsEnabled h, sim.registers h]
  · cases m.dueLine? with
    | some line => exact sim.dispatch line
    | none => exact .pure ()

lemma returnFromInterrupt : Lockstep R excused returnFromInterrupt :=
  (sim.popInto _).bind fun _ => sim.pop.bind fun _ => (sim.setFlags _).bind fun _ =>
    sim.pop.bind fun _ => (sim.setInterrupts _).bind fun _ => .pure _

/-! ## Instructions -/

lemma compute (op : Alu.Operation) (r : Register) (x y : UInt8) :
    Lockstep R excused (compute op r x y) := by
  rw [Machine.compute]
  cases Alu.execute op x y with
  | ok outcome =>
    cases outcome with
    | value v => exact sim.writeRegister r v
    | flags f => exact sim.setFlags f
  | error failure => exact sim.faultAtPc _

lemma unary (op : Alu.Operation) (a : UInt8) : Lockstep R excused (unary op a) :=
  (sim.operand a).bind fun r => (sim.readRegister r).bind fun _ =>
    (sim.compute op r _ _).bind fun _ => .pure _

lemma binary (op : Alu.Operation) (a b : UInt8) : Lockstep R excused (binary op a b) :=
  (sim.operand a).bind fun r => (sim.operand b).bind fun s => (sim.readRegister r).bind fun _ =>
    (sim.readRegister s).bind fun _ => (sim.compute op r _ _).bind fun _ => .pure _

lemma jumpIf (condition : Flags → Bool) (a : UInt8) : Lockstep R excused (jumpIf condition a) := by
  refine (sim.readOperand a).bind fun target => .get_bind ?_ fun m => .pure _
  intro m m' h
  rw [sim.flags h]

lemma call (a : UInt8) : Lockstep R excused (call a) := by
  refine (sim.readOperand a).bind fun target => .get_bind ?_ fun m =>
    (sim.push _).bind fun _ => .pure _
  intro m m' h
  rw [sim.pc h]

lemma printRegister (a : UInt8) : Lockstep R excused (printRegister a) :=
  (sim.readOperand a).bind fun v => sim.print v

lemma loadImmediate (a v : UInt8) : Lockstep R excused (loadImmediate a v) :=
  (sim.operand a).bind fun r => (sim.writeRegister r v).bind fun _ => .pure _

lemma execute (i : Instruction) : Lockstep R excused (execute i) := by
  obtain ⟨op, a, b⟩ := i
  cases op with
  | hlt => exact .pure _
  | iret => exact sim.returnFromInterrupt
  | prn => exact sim.printRegister a
  | call => exact sim.call a
  | int => exact sim.raiseInterrupt a
  | jeq => exact sim.jumpIf (fun f => f.equal) a
  | jne => exact sim.jumpIf (fun f => !f.equal) a
  | jmp => exact sim.jumpIf (fun _ => true) a
  | inc | dec => exact sim.unary _ a
  | ldi => exact sim.loadImmediate a b
  | cmp | add | mul | div | and => exact sim.binary _ a b

/-! ## Ticks -/

lemma fetch : Lockstep R excused fetch := by
  refine .get_bind ?_ fun m => (sim.readCell _).bind fun _ => (sim.readCell _).bind fun _ =>
    (sim.readCell _).bind fun _ => .pure _
  intro m m' h
  rw [sim.pc h]

lemma decode : Lockstep R excused decode := by
  refine sim.fetch.bind ?_
  rintro ⟨ir, a, b⟩
  dsimp only
  cases Instruction.decode? ir a b with
  | none => exact sim.faultAtPc _
  | some i =>
    intro m m' h
    have hrecorded := sim.recordDecoded i h
    simp only [Machine.recordDecoded, get_bind_apply] at hrecorded ⊢
    -- the answer is the instruction, whichever of the two machines records it
    cases ht : m.tracing <;> cases ht' : m'.tracing <;> rw [ht, ht'] at hrecorded
    all_goals exact ⟨rfl, hrecorded.2⟩

lemma follow (i : Instruction) (flow : Flow) : Lockstep R excused (follow i flow) := by
  cases flow with
  | next =>
    refine .get_bind ?_ fun m => sim.setPc _
    intro m m' h
    rw [sim.pc h]
  | jump target => exact sim.countBranch.bind fun _ => sim.setPc target
  | halt => exact (sim.setPhase .halted).bind fun _ => sim.recordHalted

lemma step : Lockstep R excused step :=
  sim.serviceInterrupts.bind fun _ => sim.decode.bind fun i => (sim.execute i).bind fun flow =>
    (sim.countRetired _).bind fun _ => sim.follow i flow

lemma start : Lockstep R excused start := by
  refine .get_bind ?_ fun m => ?_
  · intro m m' h
    rw [sim.phase h, sim.pc h]
  · split
    · exact (sim.setPhase _).bind fun _ => sim.emit _ rfl
    · exact .pure ()

lemma stop (fault : Fault) (h : R m m') : R (m.stop fault) (m'.stop fault) := by
  have hevent : Event.faulted fault m'.pc = .faulted fault m.pc := by rw [sim.pc h]
  rw [Machine.stop, Machine.stop, hevent]
  exact (sim.emit (.faulted fault m.pc) rfl (sim.withPhase .halted h)).2

/-- Every tick is in lockstep. -/
lemma tick : Lockstep R excused tick := by
  refine .get_bind ?_ fun m => ?_
  · intro m m' h
    rw [isHalted, isHalted, sim.phase h]
  · split
    · exact sim.start.bind fun _ => sim.countTick.bind fun _ => sim.step.haltOnFault
        fun _ _ fault h => sim.stop fault h
    · exact .pure ()

/-! ## Runs -/

lemma perform_tick (h : R m m')
    (hfault : ∀ fault, (m.perform Machine.tick).1 = .error fault → ¬ excused fault) :
    (m.perform Machine.tick).1 = (m'.perform Machine.tick).1
      ∧ R (m.perform Machine.tick).2 (m'.perform Machine.tick).2 :=
  (sim.tick h).perform hfault

/-- Related machines run side by side, as long as no fault of the first that is excused arises where
they still are related. -/
lemma afterTicks_of_related {k : Nat} (h : R m m')
    (hfault : ∀ j < k, R (m.afterTicks j) (m'.afterTicks j) → ∀ fault,
      ((m.afterTicks j).perform Machine.tick).1 = .error fault → ¬ excused fault) :
    (∀ j < k, ((m.afterTicks j).perform Machine.tick).1 =
        ((m'.afterTicks j).perform Machine.tick).1)
      ∧ R (m.afterTicks k) (m'.afterTicks k) := by
  induction k with
  | zero => exact ⟨fun j hj => absurd hj (Nat.not_lt_zero j), h⟩
  | succ k ih =>
    obtain ⟨hresults, hrelated⟩ := ih fun j hj => hfault j (Nat.lt_succ_of_lt hj)
    have hlast := sim.perform_tick hrelated (hfault k (Nat.lt_succ_self k) hrelated)
    refine ⟨fun j hj => ?_, ?_⟩
    · obtain hj | rfl := Nat.lt_succ_iff_lt_or_eq.1 hj
      · exact hresults j hj
      · exact hlast.1
    · rw [afterTicks_succ, afterTicks_succ]
      exact hlast.2

/-- Related machines run side by side, up to the first fault of the first that is excused. -/
lemma afterTicks {k : Nat} (h : R m m')
    (hfault : ∀ j < k, ∀ fault, ((m.afterTicks j).perform Machine.tick).1 = .error fault →
      ¬ excused fault) :
    (∀ j < k, ((m.afterTicks j).perform Machine.tick).1 =
        ((m'.afterTicks j).perform Machine.tick).1)
      ∧ R (m.afterTicks k) (m'.afterTicks k) :=
  sim.afterTicks_of_related h fun j hj _ => hfault j hj

/-- If no fault is excused, related machines run to the same end. -/
lemma runFor (hnever : ∀ fault, ¬ excused fault) (h : R m m') (budget : Nat) :
    (m.runFor budget).1 = (m'.runFor budget).1 ∧ R (m.runFor budget).2 (m'.runFor budget).2 := by
  induction budget generalizing m m' with
  | zero =>
    rw [Machine.runFor, Machine.runFor, isHalted, isHalted, sim.phase h]
    split <;> exact ⟨rfl, h⟩
  | succ budget ih =>
    by_cases hphase : m.phase = .halted
    · rw [runFor_of_halted _ hphase, runFor_of_halted _ ((sim.phase h).symm.trans hphase)]
      exact ⟨rfl, h⟩
    · have hphase' : m'.phase ≠ .halted := fun hhalted => hphase ((sim.phase h).trans hhalted)
      obtain ⟨hresult, hrelated⟩ := sim.perform_tick h fun fault _ => hnever fault
      rw [runFor_succ _ hphase, runFor_succ _ hphase']
      cases hm : m.perform Machine.tick with
      | mk result n =>
        cases hm' : m'.perform Machine.tick with
        | mk result' n' =>
          rw [hm, hm'] at hresult hrelated
          obtain rfl : result = result' := hresult
          cases result with
          | error fault => exact ⟨rfl, hrelated⟩
          | ok done => exact ih hrelated

end Simulation

end Machine

end LS8
