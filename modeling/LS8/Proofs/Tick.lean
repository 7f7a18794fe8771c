import LS8.Machine.Tick
import LS8.Proofs.Agreement

/-!
# What a tick does

A step dispatches an interrupt if one is due, fetches three bytes, decodes them and executes the
instruction among them, and the first of these that faults is the fault of the step
(`Machine.stepFault?`).  A step that none of them stops carries out the instruction that the
machine finds after the dispatch (`stepped`).  `step_apply` says that this is all there is.

A tick is a step of a machine that has been started and whose ticks have been counted
(`Machine.begun`).  Neither touches anything that a step reads, so the fault of a tick may be read
off the machine before it (`tick_apply`).
-/

namespace LS8.Machine

variable (m : Machine)

/-! ## Fetching and decoding -/

/-- The fault of a fetch. -/
def fetchFault? : Option Fault :=
  if m.pc + 2 < m.ram.size then none
  else some (.memoryOutOfBounds (max m.pc m.ram.size) m.ram.size)

/-- The instruction at the program counter, if there is one. -/
def instruction? : Option Instruction :=
  Instruction.decode? (m.ram.byte m.pc) (m.ram.byte (m.pc + 1)) (m.ram.byte (m.pc + 2))

/-- The fault of the instruction at the program counter, the unknown ones included. -/
def instructionFault? : Option Fault :=
  match m.instruction? with
  | none => some (.unknownOpcode (m.ram.byte m.pc) m.pc)
  | some i => i.fault? m

/-- The machine with an instruction recorded, if it is tracing. -/
def traced (i : Instruction) : Machine :=
  if m.tracing then { m with journal := m.journal.push (.decoded m.pc i) } else m

lemma fetch_apply :
    fetch m = match m.fetchFault? with
      | none => .ok (m.ram.byte m.pc, m.ram.byte (m.pc + 1), m.ram.byte (m.pc + 2)) m
      | some fault => .error fault m := by
  rw [fetch, get_bind_apply, fetchFault?]
  -- the first byte that is missing is the one at the end of memory, or the very first
  by_cases h0 : m.pc < m.ram.size
  · rw [bind_of_ok _ (by rw [readCell_apply, if_pos h0])]
    by_cases h1 : m.pc + 1 < m.ram.size
    · rw [bind_of_ok _ (by rw [readCell_apply, if_pos h1])]
      by_cases h2 : m.pc + 2 < m.ram.size
      · rw [bind_of_ok _ (by rw [readCell_apply, if_pos h2]), if_pos h2]
        rfl
      · have hmax : max m.pc m.ram.size = m.pc + 2 := by omega
        rw [bind_of_error _ (by rw [readCell_apply, if_neg h2]), if_neg h2, hmax]
    · have hmax : max m.pc m.ram.size = m.pc + 1 := by omega
      rw [bind_of_error _ (by rw [readCell_apply, if_neg h1]), if_neg (by omega), hmax]
  · have hmax : max m.pc m.ram.size = m.pc := by omega
    rw [bind_of_error _ (by rw [readCell_apply, if_neg h0]), if_neg (by omega), hmax]

/-- The instruction in three bytes that have been fetched, recorded if the machine is tracing. -/
def identify (ir a b : UInt8) : Action Instruction :=
  match Instruction.decode? ir a b with
  | none => faultAtPc (.unknownOpcode ir)
  | some i => do
    let m ← get
    if m.tracing then
      emit (.decoded m.pc i)
    return i

lemma identify_apply (ir a b : UInt8) :
    identify ir a b m = match Instruction.decode? ir a b with
      | none => .error (.unknownOpcode ir m.pc) m
      | some i => .ok i (m.traced i) := by
  rw [identify]
  cases Instruction.decode? ir a b with
  | none => rfl
  | some i =>
    simp only [get_bind_apply, traced]
    by_cases ht : m.tracing = true
    · rw [if_pos ht, if_pos ht]
      rfl
    · rw [if_neg ht, if_neg ht]
      rfl

lemma decode_apply :
    decode m = match m.fetchFault? with
      | some fault => .error fault m
      | none =>
        match m.instruction? with
        | none => .error (.unknownOpcode (m.ram.byte m.pc) m.pc) m
        | some i => .ok i (m.traced i) := by
  show (fetch >>= fun bytes => identify bytes.1 bytes.2.1 bytes.2.2) m = _
  rw [bind_apply, fetch_apply]
  cases m.fetchFault? with
  | some fault => rfl
  | none => exact identify_apply m ..

/-! ## Retiring an instruction -/

/-- The machine with an instruction counted. -/
def retired (i : Instruction) : Machine :=
  { m with statistics := m.statistics.retire i.opcode.instructionClass }

/-- The machine after following a flow. -/
def followed (i : Instruction) : Flow → Machine
  | .next => { m with pc := m.pc + i.length }
  | .jump target =>
    { m with
      pc := target
      statistics := { m.statistics with branchesTaken := m.statistics.branchesTaken + 1 } }
  | .halt =>
    { m with phase := .halted, journal := m.journal.push (.halted m.pc m.statistics.ticks) }

/-- The machine after the instruction at the program counter was carried out. -/
def carriedOut (i : Instruction) : Machine :=
  ((i.effect (m.traced i)).retired i).followed i (i.flow m)

lemma follow_apply (i : Instruction) (flow : Flow) :
    follow i flow m = .ok () (m.followed i flow) := by
  cases flow <;> rfl

lemma agrees_traced (i : Instruction) : Agrees (m.traced i) m := by
  unfold traced
  split <;> exact ⟨rfl, rfl, rfl, rfl, rfl⟩

@[simp] lemma output_traced (i : Instruction) : (m.traced i).output = m.output := by
  unfold traced
  split <;> rfl

@[simp] lemma phase_traced (i : Instruction) : (m.traced i).phase = m.phase := by
  unfold traced
  split <;> rfl

@[simp] lemma statistics_traced (i : Instruction) : (m.traced i).statistics = m.statistics := by
  unfold traced
  split <;> rfl

@[simp] lemma tracing_traced (i : Instruction) : (m.traced i).tracing = m.tracing := by
  unfold traced
  split <;> rfl

/-! ## Steps -/

/-- The fault of a step: the first of those of its stages. -/
def stepFault? : Option Fault :=
  m.dispatchFault?.or (m.serviced.fetchFault?.or m.serviced.instructionFault?)

/-- The machine after a step that faults. -/
def stepBroken : Machine :=
  match m.dispatchFault?, m.serviced.fetchFault?, m.serviced.instruction? with
  | some _, _, _ => m.serviceBroken
  | none, none, some i => i.broken (m.serviced.traced i)
  | _, _, _ => m.serviced

/-- The machine after a step that does not fault. -/
def stepped : Machine :=
  match m.serviced.instruction? with
  | some i => m.serviced.carriedOut i
  | none => m.serviced

lemma stepFault?_eq_none_iff {m : Machine} :
    m.stepFault? = none ↔
      m.dispatchFault? = none ∧ m.serviced.pc + 2 < m.ram.size
        ∧ ∃ i, m.serviced.instruction? = some i ∧ i.fault? m.serviced = none := by
  have hfetch : m.serviced.fetchFault? = none ↔ m.serviced.pc + 2 < m.ram.size := by
    rw [fetchFault?, size_ram_serviced]
    split <;> simp [*]
  have hinstruction : m.serviced.instructionFault? = none ↔
      ∃ i, m.serviced.instruction? = some i ∧ i.fault? m.serviced = none := by
    rw [instructionFault?]
    cases m.serviced.instruction? <;> simp
  rw [stepFault?, Option.or_eq_none_iff, Option.or_eq_none_iff, hfetch, hinstruction]

lemma Agrees.fetchFault? {m m' : Machine} (h : Agrees m m') : m.fetchFault? = m'.fetchFault? := by
  rw [Machine.fetchFault?, Machine.fetchFault?, h.pc, h.ram]

lemma Agrees.instruction? {m m' : Machine} (h : Agrees m m') :
    m.instruction? = m'.instruction? := by
  rw [Machine.instruction?, Machine.instruction?, h.pc, h.ram]

/-- Agreeing machines with the same output step into the same faults. -/
lemma Agrees.stepFault? {m m' : Machine} (h : Agrees m m') (houtput : m.output = m'.output) :
    m.stepFault? = m'.stepFault? := by
  have hserviced : m.serviced.output = m'.serviced.output := by
    rw [output_serviced, output_serviced, houtput]
  simp only [Machine.stepFault?, instructionFault?, h.dispatchFault?, h.serviced.fetchFault?,
    h.serviced.instruction?, h.serviced.pc, h.serviced.ram, h.serviced.fault? hserviced]

lemma step_apply :
    step m = match m.stepFault? with
      | none => .ok () m.stepped
      | some fault => .error fault m.stepBroken := by
  rw [step, bind_apply, serviceInterrupts_apply, stepFault?, stepBroken, stepped]
  cases m.dispatchFault? with
  | some fault => rfl
  | none =>
    simp only [bind_apply, decode_apply, Option.none_or, instructionFault?]
    cases m.serviced.fetchFault? with
    | some fault => rfl
    | none =>
      cases m.serviced.instruction? with
      | none => rfl
      | some i =>
        have hagrees := m.serviced.agrees_traced i
        simp only [execute_apply, Option.none_or,
          hagrees.fault? (output_traced ..) i, hagrees.flow i]
        cases i.fault? m.serviced with
        | some fault => rfl
        | none =>
          simp only [count_apply, follow_apply]
          rfl

/-! ## Ticks -/

/-- The machine after a start. -/
def started : Machine :=
  if m.phase = .idle then
    { m with phase := .running, journal := m.journal.push (.clockStarted m.pc) }
  else m

/-- The machine that a tick makes a step of: it has been started and the tick is counted. -/
def begun : Machine :=
  { m.started with statistics := { m.statistics with ticks := m.statistics.ticks + 1 } }

lemma start_apply : start m = .ok () m.started := by
  rw [start, get_bind_apply, started]
  by_cases h : m.phase = .idle
  · rw [if_pos h, if_pos h]
    rfl
  · rw [if_neg h, if_neg h]
    rfl

lemma statistics_started : m.started.statistics = m.statistics := by
  unfold started
  split <;> rfl

lemma output_started : m.started.output = m.output := by
  unfold started
  split <;> rfl

lemma agrees_begun : Agrees m.begun m := by
  unfold begun started
  split <;> exact ⟨rfl, rfl, rfl, rfl, rfl⟩

@[simp] lemma output_begun : m.begun.output = m.output := by
  unfold begun started
  split <;> rfl

@[simp] lemma tracing_begun : m.begun.tracing = m.tracing := by
  unfold begun started
  split <;> rfl

@[simp] lemma statistics_begun :
    m.begun.statistics = { m.statistics with ticks := m.statistics.ticks + 1 } := rfl

/-- Starting a machine and counting its tick moves no fault. -/
lemma stepFault?_begun : m.begun.stepFault? = m.stepFault? :=
  m.agrees_begun.stepFault? m.output_begun

variable {m}

lemma phase_begun (h : m.phase ≠ .halted) : m.begun.phase = .running := by
  unfold begun started
  split
  · rfl
  · rename_i hidle
    show m.phase = .running
    cases hphase : m.phase with
    | idle => exact absurd hphase hidle
    | running => rfl
    | halted => exact absurd hphase h

lemma tick_of_halted (h : m.phase = .halted) : tick m = .ok () m := by
  have hhalted : m.isHalted = true := decide_eq_true h
  rw [tick, get_bind_apply, hhalted]
  rfl

lemma tick_of_not_halted (h : m.phase ≠ .halted) : tick m = haltOnFault step m.begun := by
  have hhalted : m.isHalted = false := decide_eq_false h
  rw [tick, get_bind_apply, hhalted]
  show (start >>= _) m = _
  rw [bind_of_ok _ (start_apply m), bind_of_ok _ (count_apply ..)]
  unfold begun started
  split <;> rfl

/-- The whole of a tick of a machine that has not halted. -/
lemma tick_apply (h : m.phase ≠ .halted) :
    tick m = match m.stepFault? with
      | none => .ok () m.begun.stepped
      | some fault => .error fault (m.begun.stepBroken.stop fault) := by
  rw [tick_of_not_halted h, haltOnFault, step_apply, stepFault?_begun]
  cases m.stepFault? <;> rfl

lemma perform_tick_of_none (h : m.phase ≠ .halted) (hfault : m.stepFault? = none) :
    m.perform tick = (.ok (), m.begun.stepped) := by
  rw [perform, tick_apply h, hfault]

lemma tick_eq_ok {m' : Machine} (h : m.phase ≠ .halted) (hok : m.perform tick = (.ok (), m')) :
    m.stepFault? = none ∧ m' = m.begun.stepped := by
  rw [perform_eq_ok_iff, tick_apply h] at hok
  cases hfault : m.stepFault? with
  | some fault =>
    rw [hfault] at hok
    cases hok
  | none =>
    rw [hfault] at hok
    cases hok
    exact ⟨rfl, rfl⟩

/-- If nothing is dispatched, a step faults where the machine stands. -/
lemma stepFault?_of_quiet (hdue : m.dueLine? = none) :
    m.stepFault? = m.fetchFault?.or m.instructionFault? := by
  rw [stepFault?, dispatchFault?, hdue, Option.bind_none, Option.none_or, serviced_of_none hdue]

/-- A tick that dispatches nothing and finds three bytes is the instruction among them. -/
lemma perform_tick_of_quiet {i : Instruction} (hphase : m.phase ≠ .halted)
    (hdue : m.dueLine? = none) (hfetch : m.pc + 2 < m.ram.size) (hi : m.instruction? = some i) :
    m.perform tick = match i.fault? m with
      | none => (.ok (), m.begun.carriedOut i)
      | some fault => (.error fault, (i.broken (m.begun.traced i)).stop fault) := by
  have hbegun := m.agrees_begun
  have hdispatch : m.dispatchFault? = none := by rw [dispatchFault?, hdue, Option.bind_none]
  have hfetchFault : m.fetchFault? = none := if_pos hfetch
  have hstep : m.stepFault? = i.fault? m := by
    rw [stepFault?_of_quiet hdue, hfetchFault, Option.none_or, instructionFault?, hi]
  have hserviced : m.begun.serviced = m.begun :=
    serviced_of_none (hbegun.dueLine?.trans hdue)
  have hinstruction : m.begun.instruction? = some i := by rw [hbegun.instruction?, hi]
  have hstepped : m.begun.stepped = m.begun.carriedOut i := by
    rw [stepped, hserviced, hinstruction]
  have hbroken : m.begun.stepBroken = i.broken (m.begun.traced i) := by
    rw [stepBroken, hserviced, hinstruction, hbegun.dispatchFault?, hdispatch,
      hbegun.fetchFault?, hfetchFault]
  rw [perform, tick_apply hphase, hstep, hstepped, hbroken]
  cases i.fault? m <;> rfl

end LS8.Machine
