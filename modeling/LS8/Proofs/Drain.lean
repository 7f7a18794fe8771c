import LS8.Proofs.Transparency
import LS8.Proofs.History
import Mathlib.Tactic.FinCases

/-!
# Pending lines drain in order

A handler that is nothing but a return is dispatched and left in one tick, and what that tick leaves
behind is the machine from before it with one line less pending (`Drainable.tick`).  The dispatch
writes its frame below the stack pointer, so this needs the vector and the handler to stand
elsewhere (`HandledAt`), and nothing else about the memory.

The tick dispatches the lowest line and keeps interrupts enabled and everything in place that the
other lines need, so as many ticks as lines are pending dispatch them all, the lowest first
(`pending_lines_drain`).  What some of these ticks leave behind is a `Round`, and rounds compose.
-/

namespace LS8

/-! ## Rounds -/

/-- The counters after some more ticks, each of which dispatched an interrupt and retired a
return. -/
def Statistics.afterRounds (s : Statistics) (n : Nat) : Statistics :=
  { s with
    ticks := s.ticks + UInt64.ofNat n
    retired := s.retired + UInt64.ofNat n
    interrupt := s.interrupt + UInt64.ofNat n
    branchesTaken := s.branchesTaken + UInt64.ofNat n
    interruptsServiced := s.interruptsServiced + UInt64.ofNat n }

lemma Statistics.afterRounds_add (s : Statistics) (j k : Nat) :
    s.afterRounds (j + k) = (s.afterRounds j).afterRounds k := by
  simp only [afterRounds, UInt64.ofNat_add, UInt64.add_assoc]

namespace Machine

variable {m m' m'' : Machine} {line n j k : Nat} {cleared handler p q : UInt8}

/-- What some ticks leave behind that each entered a handler and returned from it: the lines in
`cleared` are no longer pending, and below the stack pointer there may be something else. -/
structure Round (n : Nat) (cleared : UInt8) (m m' : Machine) : Prop where
  registers : m'.registers =
    m.registers.write .status (m.registers.read .status &&& ~~~cleared)
  pc : m'.pc = m.pc
  flags : m'.flags = m.flags
  phase : m'.phase ≠ .halted
  interruptsEnabled : m'.interruptsEnabled = true
  output : m'.output = m.output
  size : m'.ram.size = m.ram.size
  cells : ∀ address ∉ cellsBelow m.registers.stackPointer 9,
    m'.ram.cell? address = m.ram.cell? address
  statistics : m'.statistics = m.statistics.afterRounds n

namespace Round

lemma refl (hphase : m.phase ≠ .halted) (henabled : m.interruptsEnabled = true) :
    Round 0 0 m m where
  registers := by
    have hall : m.registers.read .status &&& ~~~(0 : UInt8) = m.registers.read .status := by
      simp
    rw [hall, Registers.write_read]
  pc := rfl
  flags := rfl
  phase := hphase
  interruptsEnabled := henabled
  output := rfl
  size := rfl
  cells _ _ := rfl
  statistics := by simp [Statistics.afterRounds]

lemma read (h : Round n cleared m m') {r : Register} (hr : r ≠ .status) :
    m'.registers.read r = m.registers.read r := by
  rw [h.registers, Registers.read_write_of_ne _ _ (Ne.symm hr)]

lemma status (h : Round n cleared m m') :
    m'.registers.read .status = m.registers.read .status &&& ~~~cleared := by
  rw [h.registers, Registers.read_write_self]

lemma stackPointer (h : Round n cleared m m') :
    m'.registers.stackPointer = m.registers.stackPointer :=
  h.read (by decide)

lemma pending (h : Round n cleared m m') :
    m'.registers.pending = m.registers.pending &&& ~~~cleared := by
  rw [Registers.pending, Registers.pending, h.read (by decide), h.status, UInt8.and_assoc]

lemma trans (h : Round j p m m') (h' : Round k q m' m'') : Round (j + k) (p ||| q) m m'' where
  registers := by
    rw [h'.registers, h.registers, Registers.read_write_self, Registers.write_write,
      and_not_and_not]
  pc := h'.pc.trans h.pc
  flags := h'.flags.trans h.flags
  phase := h'.phase
  interruptsEnabled := h'.interruptsEnabled
  output := h'.output.trans h.output
  size := h'.size.trans h.size
  cells address haddress := by
    rw [h'.cells address (by rw [h.stackPointer]; exact haddress), h.cells address haddress]
  statistics := by rw [h'.statistics, h.statistics, Statistics.afterRounds_add]

end Round

/-! ## One line -/

/-- The vector of a line names a handler that is nothing but a return, and neither of them stands
where the dispatch pushes its frame. -/
structure HandledAt (m : Machine) (line : Nat) (handler : UInt8) : Prop where
  vector : m.ram.cell? (vectorBase + line) = some handler
  within : handler.toNat + 2 < 256
  code : m.ram.cell? handler.toNat = some Opcode.iret.byte
  vector_apart : vectorBase + line ∉ cellsBelow m.registers.stackPointer 9
  handler_apart : handler.toNat ∉ cellsBelow m.registers.stackPointer 9

/-- The machine may dispatch interrupts, has the whole address space for memory, and every line that
is pending has a handler that returns at once. -/
structure Drainable (m : Machine) : Prop where
  phase : m.phase ≠ .halted
  size : m.ram.size = 256
  interruptsEnabled : m.interruptsEnabled = true
  pc : m.pc < 256
  handled : ∀ line, m.registers.pending.toNat.testBit line = true →
    ∃ handler, m.HandledAt line handler

lemma HandledAt.of_round (h : m.HandledAt line handler) (hround : Round n cleared m m') :
    m'.HandledAt line handler where
  vector := (hround.cells _ h.vector_apart).trans h.vector
  within := h.within
  code := (hround.cells _ h.handler_apart).trans h.code
  vector_apart := by
    rw [hround.stackPointer]
    exact h.vector_apart
  handler_apart := by
    rw [hround.stackPointer]
    exact h.handler_apart

/-- A round leaves the machine ready for the lines that are still pending. -/
lemma Drainable.of_round (h : Drainable m) (hround : Round n cleared m m') : Drainable m' where
  phase := hround.phase
  size := hround.size.trans h.size
  interruptsEnabled := hround.interruptsEnabled
  pc := by
    rw [hround.pc]
    exact h.pc
  handled line hline := by
    rw [hround.pending, testBit_and, Bool.and_eq_true] at hline
    obtain ⟨handler, hhandled⟩ := h.handled line hline.1
    exact ⟨handler, hhandled.of_round hround⟩

/-- In a memory of 256 cells every access succeeds that goes by bytes. -/
lemma accessFault?_of_size {ram : Ram} (h : ram.size = 256) {addresses : List Nat}
    (hlt : ∀ address ∈ addresses, address < 256) : ram.accessFault? addresses = none := by
  rw [Ram.accessFault?_eq_none_iff, h]
  exact hlt

lemma accessFault?_dispatchCells (hsize : m.ram.size = 256) (hline : line < interruptLines) :
    m.ram.accessFault? (m.dispatchCells line) = none := by
  refine accessFault?_of_size hsize fun address hmem => ?_
  rcases List.mem_append.1 hmem with hframe | hvector
  · exact lt_of_mem_cellsBelow hframe
  · have hlines : line < 8 := hline
    have hcell : address = 0xF8 + line := List.mem_singleton.1 hvector
    omega

/-- A dispatch goes to the handler, which it leaves alone. -/
lemma HandledAt.instruction? (h : m.HandledAt line handler) :
    (m.dispatched line).pc = handler.toNat
      ∧ ∃ a b, (m.dispatched line).instruction? = some ⟨.iret, a, b⟩ := by
  have hpc : (m.dispatched line).pc = handler.toNat := by
    rw [pc_dispatched, Ram.byte, cell?_dispatched_of_notMem h.vector_apart, h.vector]
    rfl
  have hcode : (m.dispatched line).ram.byte handler.toNat = Opcode.iret.byte := by
    rw [Ram.byte, cell?_dispatched_of_notMem h.handler_apart, h.code]
    rfl
  refine ⟨hpc, (m.dispatched line).ram.byte (handler.toNat + 1),
    (m.dispatched line).ram.byte (handler.toNat + 2), ?_⟩
  rw [Machine.instruction?, hpc, hcode]
  rfl

/-- The next tick dispatches the lowest line and retires the return that is its handler. -/
lemma Drainable.retires? (h : Drainable m) (hline : IsLowestLine m.registers.pending line) :
    m.dueLine? = some line ∧ m.dispatchFault? = none
      ∧ ∃ a b, m.retires? = some ⟨.iret, a, b⟩ := by
  have hdue : m.dueLine? = some line := dueLine?_eq_some_iff.2 ⟨h.interruptsEnabled, hline⟩
  have hserviced : m.serviced = m.dispatched line := by rw [serviced, hdue]
  have hdispatch : m.dispatchFault? = none := by
    rw [dispatchFault?, hdue]
    exact accessFault?_dispatchCells h.size hline.lt
  obtain ⟨handler, hhandled⟩ := h.handled line hline.1
  obtain ⟨hpc, a, b, hi⟩ := hhandled.instruction?
  have hreturn : Instruction.fault? ⟨.iret, a, b⟩ (m.dispatched line) = none :=
    accessFault?_of_size (by rw [size_ram_dispatched, h.size]) fun _ => lt_of_mem_cellsFrom
  refine ⟨hdue, hdispatch, a, b, retires?_eq_some_iff.2 ⟨h.phase, ?_, by rw [hserviced, hi]⟩⟩
  refine stepFault?_eq_none_iff.2 ⟨hdispatch, ?_, _, by rw [hserviced, hi], ?_⟩
  · rw [hserviced, hpc, h.size]
    exact hhandled.within
  · rw [hserviced, hreturn]

lemma statistics_tick_of_return {a b : UInt8} (henters : m.entersHandler = true)
    (hretires : m.retires? = some ⟨.iret, a, b⟩) :
    (m.perform Machine.tick).2.statistics = m.statistics.afterRounds 1 := by
  have htaken : m.takesBranch = true := by
    rw [takesBranch, hretires]
    rfl
  rw [statistics_tick, hretires, isHalted_of_isSome (by rw [hretires]; rfl), henters, htaken]
  rfl

/-- A return right after the dispatch finds the frame as the dispatch left it. -/
lemma Drainable.overFrame (h : Drainable m) (hline : line < interruptLines) (i : Instruction) :
    OverFrame line m.begun ((m.begun.dispatched line).traced i) := by
  have hagrees := (m.begun.dispatched line).agrees_traced i
  refine ⟨?_, by rw [hagrees.registers], fun address _ => by rw [hagrees.ram]⟩
  exact accessFault?_dispatchCells (by rw [m.agrees_begun.ram, h.size]) hline

/-- **One line drains.**  A tick dispatches the lowest pending line, returns from its handler and
leaves the machine as it was with that line cleared. -/
lemma Drainable.tick (h : Drainable m) (hline : IsLowestLine m.registers.pending line) :
    (m.perform Machine.tick).1 = .ok () ∧ m.dueLine? = some line ∧ m.entersHandler = true
      ∧ Round 1 (lineBit line) m (m.perform Machine.tick).2 := by
  obtain ⟨hdue, hdispatch, a, b, hretires⟩ := h.retires? hline
  have hbegun := m.agrees_begun
  have hagrees := (m.begun.dispatched line).agrees_traced ⟨.iret, a, b⟩
  have hover := h.overFrame hline.lt ⟨.iret, a, b⟩
  have henters : m.entersHandler = true := by
    rw [entersHandler, dispatches, isHalted_of_ne h.phase, hdue, hdispatch]
    rfl
  have hstatistics := statistics_tick_of_return henters hretires
  have htick : m.perform Machine.tick =
      (.ok (), (m.begun.dispatched line).carriedOut ⟨.iret, a, b⟩) := by
    rw [perform_tick_of_retires? hretires, serviced, hbegun.dueLine?, hdue]
  rw [htick] at hstatistics ⊢
  refine ⟨rfl, hdue, henters, ?_, ?_, ?_, ?_, rfl, ?_, ?_, ?_, hstatistics⟩
  · rw [← hbegun.registers]
    exact hover.registers_returned
  · show (m.begun.dispatched line).returnAddress.toNat = m.pc
    rw [← hagrees.returnAddress, hover.returnAddress_eq, hbegun.pc]
    exact UInt8.toNat_ofNat_of_lt' h.pc
  · rw [← hbegun.flags]
    exact hover.flags_returned
  · have hrunning : (m.begun.dispatched line).phase = .running := by
      rw [phase_dispatched, phase_begun h.phase]
    have hreturn : Opcode.iret ≠ .hlt := by decide
    rw [phase_carriedOut, if_neg hreturn, hrunning]
    decide
  · show ((m.begun.dispatched line).traced _).returned.output = m.output
    rw [output_returned, output_traced, output_dispatched, output_begun]
  · rw [size_ram_carriedOut, size_ram_dispatched, hbegun.ram]
  · intro address haddress
    have hbelow : address ∉ cellsBelow m.begun.registers.stackPointer 9 := by
      rw [hbegun.registers]
      exact haddress
    show ((m.begun.dispatched line).traced _).returned.ram.cell? address = _
    rw [ram_returned, hagrees.ram, cell?_dispatched_of_notMem hbelow, hbegun.ram]

/-! ## All lines -/

/-- As many ticks as lines are pending dispatch them all, one after the other. -/
lemma Drainable.afterTicks {lines : List Nat} (h : Drainable m)
    (hlines : linesOf m.registers.pending = lines) :
    (∀ j (hj : j < lines.length),
        ((m.afterTicks j).perform Machine.tick).1 = .ok ()
          ∧ (m.afterTicks j).dueLine? = some lines[j]
          ∧ (m.afterTicks j).entersHandler = true)
      ∧ Round lines.length m.registers.pending m (m.afterTicks lines.length) := by
  induction lines generalizing m with
  | nil =>
    refine ⟨fun j hj => absurd hj (Nat.not_lt_zero j), ?_⟩
    rw [linesOf_eq_nil_iff.1 hlines]
    exact .refl h.phase h.interruptsEnabled
  | cons line rest ih =>
    have hlowest := isLowestLine_of_linesOf hlines
    obtain ⟨hok, hdue, henters, hround⟩ := h.tick hlowest
    have hrest : linesOf (m.perform Machine.tick).2.registers.pending = rest := by
      rw [hround.pending]
      exact linesOf_clear hlines
    obtain ⟨hlater, hrounds⟩ := ih (h.of_round hround) hrest
    refine ⟨fun j hj => ?_, ?_⟩
    · cases j with
      | zero => exact ⟨hok, hdue, henters⟩
      | succ j => exact hlater j (Nat.lt_of_succ_lt_succ hj)
    · have hall := hround.trans hrounds
      rw [hround.pending, lineBit_or_clear hlowest, Nat.add_comm] at hall
      exact hall

/-- **Pending lines drain in order.**  The lines that are pending under the mask are dispatched one
in each tick, the lowest first, and when the last of them has returned the machine is where it was.
Of its status register it has lost these lines and nothing else, and of its memory at most the nine
cells below the stack pointer have changed. -/
theorem pending_lines_drain (h : Drainable m) (hpending : m.registers.pending ≠ 0) :
    ∃ lines : List Nat, lines ≠ [] ∧ lines.Pairwise (· < ·)
      ∧ (∀ line, line ∈ lines ↔ m.registers.pending.toNat.testBit line = true)
      ∧ (∀ j (hj : j < lines.length),
          ((m.afterTicks j).perform Machine.tick).1 = .ok ()
            ∧ (m.afterTicks j).dueLine? = some lines[j]
            ∧ (m.afterTicks j).entersHandler = true)
      ∧ (m.afterTicks lines.length).pc = m.pc
      ∧ (m.afterTicks lines.length).flags = m.flags
      ∧ (∀ r, r ≠ .status →
          (m.afterTicks lines.length).registers.read r = m.registers.read r)
      ∧ (m.afterTicks lines.length).registers.read .status =
          m.registers.read .status &&& ~~~m.registers.pending
      ∧ (m.afterTicks lines.length).interruptsEnabled = true
      ∧ (m.afterTicks lines.length).output = m.output
      ∧ (∀ address ∉ cellsBelow m.registers.stackPointer 9,
          (m.afterTicks lines.length).ram.cell? address = m.ram.cell? address)
      ∧ (m.afterTicks lines.length).statistics = m.statistics.afterRounds lines.length := by
  obtain ⟨hticks, hround⟩ := h.afterTicks rfl
  refine ⟨linesOf m.registers.pending, ?_, pairwise_linesOf _, fun _ => mem_linesOf, hticks,
    hround.pc, hround.flags, fun _ => hround.read, hround.status, hround.interruptsEnabled,
    hround.output, hround.cells, hround.statistics⟩
  intro hnone
  exact hpending (linesOf_eq_nil_iff.1 hnone)

/-- A machine with lines 0, 1 and 2 pending, line 7 masked, two handlers that return at once and a
stack pointer so low that the frames wrap around address 0. -/
def threePending : Machine :=
  let ram := ((((Ram.zeroed addressSpace).store 0xF8 0x10).store 0xF9 0x20).store 0xFA 0x10)
  { initial ((ram.store 0x10 0x0B).store 0x20 0x0B) 4 false .unlimited with
    registers := ((Registers.initial 4).write .mask 7).write .status 0x87
    flags := ⟨false, false, true⟩
    pc := 5 }

/-- Three ticks later the machine is where it was, and line 7 is still raised. -/
theorem pending_lines_drain_threePending :
    Drainable threePending ∧ threePending.registers.pending = 7
      ∧ (threePending.afterTicks 2).dueLine? = some 2
      ∧ (threePending.afterTicks 3).pc = 5
      ∧ (threePending.afterTicks 3).registers.read .status = 0x80
      ∧ (threePending.afterTicks 3).registers.stackPointer = 4
      ∧ (threePending.afterTicks 3).statistics =
        { ticks := 3, retired := 3, interrupt := 3, branchesTaken := 3, interruptsServiced := 3 } := by
  have hpending : threePending.registers.pending = 7 := by decide
  have hthree : linesOf 7 = [0, 1, 2] := by decide
  have hhandled : ∀ line ∈ [0, 1, 2], ∃ handler, threePending.HandledAt line handler := by
    intro line hline
    refine ⟨threePending.ram.byte (vectorBase + line), ?_, ?_, ?_, ?_, ?_⟩
    all_goals fin_cases hline
    all_goals decide +kernel
  have hdrainable : Drainable threePending := by
    refine ⟨by decide, by decide +kernel, rfl, by decide, fun line hline => ?_⟩
    rw [hpending, ← mem_linesOf, hthree] at hline
    exact hhandled line hline
  obtain ⟨lines, -, hsorted, hlines, hticks, hpc, -, hregisters, hstatus, -, -, -, hstatistics⟩ :=
    pending_lines_drain hdrainable (by rw [hpending]; decide)
  obtain rfl : lines = [0, 1, 2] := by
    refine List.Pairwise.eq_of_mem_iff hsorted (by decide) fun line => ?_
    rw [hlines, hpending, ← mem_linesOf, hthree]
  exact ⟨hdrainable, hpending, (hticks 2 (by decide)).2.1, hpc, hstatus.trans (by decide),
    hregisters .stackPointer (by decide), hstatistics⟩

end Machine

end LS8
