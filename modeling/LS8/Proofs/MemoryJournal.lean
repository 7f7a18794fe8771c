import LS8.Proofs.Accounting
import LS8.Proofs.Journal

/-!
# The journal accounts for memory

Only a push writes to memory, and every push that writes is recorded, those of a dispatch that fails
half way included.  So the memory of a simulator is at any time the image that was loaded with the
recorded pushes stored in it (`memory_is_journaled`), and a pop that is recorded has found the byte
that the pushes before it left in its cell.

A tick pushes when it dispatches an interrupt, up to nine bytes, and when it retires a call, one
byte.  All of them go to the cells below the stack pointer, one after the other, so no tick touches
more than ten cells.
-/

namespace LS8

/-- The image of a program in a memory with `n` cells: its bytes and then zeros. -/
def Ram.image (program : List UInt8) (n : Nat) : Ram :=
  ⟨(program ++ List.replicate (n - program.length) 0).toArray⟩

lemma cellsBelow_add (sp : UInt8) (j k : Nat) :
    cellsBelow sp (j + k) = cellsBelow sp j ++ cellsBelow (sp - UInt8.ofNat j) k := by
  induction j generalizing sp with
  | zero => simp
  | succ j ih =>
    rw [Nat.add_right_comm, cellsBelow_succ, cellsBelow_succ, ih, List.cons_append,
      sub_ofNat_succ]

lemma accessed_length (accesses : List (UInt8 × UInt8)) :
    (accessed accesses).length = accesses.length :=
  List.length_map _

namespace Machine

variable {m : Machine} {i : Instruction}

/-! ## One tick -/

lemma attemptsDispatch_of_halted (h : m.phase = .halted) : m.attemptsDispatch = false := by
  rw [attemptsDispatch, isHalted_of_halted h]
  rfl

variable (m) in
/-- How many bytes the next tick saves in a dispatch. -/
def dispatchPushes : Nat :=
  if m.attemptsDispatch then m.ram.reach (cellsBelow m.registers.stackPointer 9) else 0

lemma dispatchPushes_of_false (h : m.attemptsDispatch = false) : m.dispatchPushes = 0 := by
  rw [dispatchPushes, h]
  rfl

lemma dispatchPushes_of_true (h : m.attemptsDispatch = true) :
    m.dispatchPushes = m.ram.reach (cellsBelow m.registers.stackPointer 9) :=
  if_pos h

lemma dispatchPushes_le (m : Machine) : m.dispatchPushes ≤ 9 := by
  have hreach := m.ram.reach_le_length (cellsBelow m.registers.stackPointer 9)
  rw [length_cellsBelow] at hreach
  rw [dispatchPushes]
  split
  · exact hreach
  · exact Nat.zero_le 9

lemma dispatchPushes_of_ne (h : m.phase ≠ .halted) : m.dispatchPushes = m.savedBytes := by
  rw [dispatchPushes, attemptsDispatch, isHalted_of_ne h, savedBytes]
  rfl

/-- A tick that retires a call pops nothing. -/
lemma nextPops_of_call (h : m.retires .call = true) : m.nextPops = [] := by
  obtain ⟨i, hretires, hcall⟩ := exists_of_retires h
  rw [nextPops, executes?_of_retires? hretires, Option.elim_some, Instruction.poppedCells, hcall]
  rfl

/-- The events of a tick, those of the dispatch apart from those of the instruction. -/
lemma exists_journaled_tick (m : Machine) :
    ∃ saved carried, Journaled (saved ++ carried) m (m.perform tick).2
      ∧ accessed (pushes saved) = cellsBelow m.registers.stackPointer m.dispatchPushes
      ∧ accessed (pushes carried) =
          (if m.retires .call then cellsBelow m.entered.registers.stackPointer 1 else [])
      ∧ ∀ sp v, .popped sp v ∈ saved ++ carried →
          m.entered.ram.cell? sp.toNat = some v ∧ (m.perform tick).2.ram = m.entered.ram := by
  by_cases hphase : m.phase = .halted
  · have hretires : m.retires .call = false := by
      rw [retires, retires?_of_halted hphase]
      rfl
    rw [perform_tick_of_halted hphase,
      dispatchPushes_of_false (attemptsDispatch_of_halted hphase), hretires]
    exact ⟨[], [], .silent rfl rfl, rfl, rfl, fun sp v hmem => absurd hmem List.not_mem_nil⟩
  · have hbegun := m.agrees_begun
    have hentered := hbegun.entered
    obtain ⟨saved, hsaved, hpushes, hpops, -⟩ := leaves_begun.after_silent m.begun.leaves_entered
    obtain ⟨carried, hcarried, hcalled, hpopped, -⟩ := leaves_tick hphase
    rw [hbegun.savedBytes, hbegun.registers, ← dispatchPushes_of_ne hphase] at hpushes
    refine ⟨saved, carried, hsaved.trans hcarried, hpushes, hcalled, ?_⟩
    intro sp v hmem
    rcases List.mem_append.1 hmem with hearly | hlate
    · have hcell : sp.toNat ∈ accessed (pops saved) :=
        List.mem_map.2 ⟨_, mem_pops_of_mem hearly, rfl⟩
      rw [hpops] at hcell
      cases hcell
    · -- what pops is no call, so the tick has pushed nothing since the dispatch
      have hcell : sp.toNat ∈ m.nextPops := by
        rw [← hpopped]
        exact List.mem_map.2 ⟨_, mem_pops_of_mem hlate, rfl⟩
      have hnocall : m.retires .call = false := by
        by_contra hcall
        rw [nextPops_of_call (Bool.not_eq_false _ ▸ hcall)] at hcell
        cases hcell
      have hnone : pushes carried = [] := by
        rw [hnocall] at hcalled
        exact List.map_eq_nil_iff.1 hcalled
      rw [← hentered.ram]
      exact ⟨hcarried.cell?_of_mem hnone hlate, hcarried.ram_of_pushes_eq_nil hnone⟩

/-- A dispatch in front of an instruction that retires has found all its cells. -/
lemma dispatchPushes_of_retires? (h : m.retires? = some i) :
    m.dispatchPushes = if m.attemptsDispatch then 9 else 0 := by
  obtain ⟨hphase, hfault, -⟩ := retires?_eq_some_iff.1 h
  have hcells := (stepFault?_eq_none_iff.1 hfault).1
  cases hdispatch : m.attemptsDispatch with
  | false => exact dispatchPushes_of_false hdispatch
  | true =>
    rw [dispatchPushes_of_true hdispatch]
    rw [attemptsDispatch, isHalted_of_ne hphase] at hdispatch
    obtain ⟨line, hdue⟩ := Option.isSome_iff_exists.1 hdispatch
    rw [dispatchFault?, hdue, Option.bind_some, dispatchCells, Ram.accessFault?_append,
      Option.or_eq_none_iff] at hcells
    exact (m.ram.reach_eq_length hcells.1).trans (length_cellsBelow _ 9)

/-- It has moved the stack pointer past its frame. -/
lemma stackPointer_entered_of_retires? (h : m.retires? = some i) :
    m.entered.registers.stackPointer =
      m.registers.stackPointer - UInt8.ofNat m.dispatchPushes := by
  rw [dispatchPushes_of_retires? h]
  obtain ⟨hphase, hfault, -⟩ := retires?_eq_some_iff.1 h
  rw [entered_of_none m (stepFault?_eq_none_iff.1 hfault).1, serviced, attemptsDispatch,
    isHalted_of_ne hphase]
  cases m.dueLine? with
  | none => simp
  | some line => simp

/-- A dispatch that does not come to the end of its frame is the fault of its tick. -/
lemma tick_of_dispatchPushes_lt (hdispatch : m.attemptsDispatch = true)
    (h : m.dispatchPushes < 9) :
    (m.perform tick).1 = .error (.memoryOutOfBounds
      (m.registers.stackPointer - UInt8.ofNat (m.dispatchPushes + 1)).toNat m.ram.size) := by
  have hphase : m.phase ≠ .halted := by
    intro hhalted
    rw [attemptsDispatch_of_halted hhalted] at hdispatch
    cases hdispatch
  rw [dispatchPushes_of_true hdispatch] at h ⊢
  rw [attemptsDispatch, isHalted_of_ne hphase] at hdispatch
  obtain ⟨line, hdue⟩ := Option.isSome_iff_exists.1 hdispatch
  have hcells := m.ram.accessFault?_of_getElem?_reach
    (getElem?_cellsBelow m.registers.stackPointer h)
  have hfault : m.stepFault? = some (.memoryOutOfBounds (m.registers.stackPointer - UInt8.ofNat
      (m.ram.reach (cellsBelow m.registers.stackPointer 9) + 1)).toNat m.ram.size) := by
    rw [stepFault?, dispatchFault?, hdue, Option.bind_some, dispatchCells,
      Ram.accessFault?_append, hcells, Option.some_or, Option.some_or]
  rw [perform, tick_apply hphase, hfault]

/-- The cells that a tick pushes to lie in a row below the stack pointer. -/
lemma cellsBelow_tick (m : Machine) :
    cellsBelow m.registers.stackPointer m.dispatchPushes
      ++ (if m.retires .call then cellsBelow m.entered.registers.stackPointer 1 else []) =
    cellsBelow m.registers.stackPointer (m.dispatchPushes + if m.retires .call then 1 else 0) := by
  by_cases hcall : m.retires .call = true
  · obtain ⟨i, hretires, -⟩ := exists_of_retires hcall
    rw [if_pos hcall, if_pos hcall, cellsBelow_add, stackPointer_entered_of_retires? hretires]
  · rw [if_neg hcall, if_neg hcall, List.append_nil, Nat.add_zero]

/-- A tick touches none but the ten cells below the stack pointer. -/
lemma cell?_tick_of_notMem {address : Nat}
    (h : address ∉ cellsBelow m.registers.stackPointer 10) :
    (m.perform tick).2.ram.cell? address = m.ram.cell? address := by
  obtain ⟨saved, carried, htick, hsaved, hcarried, -⟩ := exists_journaled_tick m
  have hten : m.dispatchPushes + (if m.retires .call then 1 else 0) ≤ 10 := by
    have hnine := m.dispatchPushes_le
    split <;> omega
  rw [htick.ram]
  refine m.ram.cell?_replay_of_notMem fun hmem => h ?_
  rw [pushes_append, accessed_append, hsaved, hcarried, cellsBelow_tick,
    ← take_cellsBelow _ hten] at hmem
  exact List.mem_of_mem_take hmem

/-! ## Runs -/

lemma kept_journaled (origin : Machine) :
    Simulator.Kept fun _ m => ∃ es, Journaled es origin m where
  start := by
    rintro past m ⟨es, hes⟩
    obtain ⟨fs, hfs, -⟩ := m.leaves_started
    exact ⟨es ++ fs, hes.trans hfs⟩
  tick := by
    rintro past m ⟨es, hes⟩
    obtain ⟨saved, carried, htick, -⟩ := exists_journaled_tick m
    exact ⟨es ++ (saved ++ carried), hes.trans htick⟩
  note := by
    rintro past m ticks ⟨es, hes⟩
    exact ⟨es ++ [.tickLimitReached ticks], hes.trans (.note _ rfl rfl rfl rfl)⟩

/-- A tick that neither dispatches nor calls leaves memory alone. -/
lemma ram_tick (hdispatch : m.attemptsDispatch = false) (hcall : m.retires .call = false) :
    (m.perform tick).2.ram = m.ram := by
  obtain ⟨saved, carried, htick, hsaved, hcarried, -⟩ := exists_journaled_tick m
  rw [dispatchPushes_of_false hdispatch] at hsaved
  rw [hcall] at hcarried
  refine htick.ram_of_pushes_eq_nil ?_
  rw [pushes_append, List.map_eq_nil_iff.1 hsaved, List.map_eq_nil_iff.1 hcarried]
  rfl

lemma ram_afterTicks {k : Nat}
    (h : ∀ j < k, (m.afterTicks j).attemptsDispatch = false
      ∧ (m.afterTicks j).retires .call = false) : (m.afterTicks k).ram = m.ram := by
  induction k with
  | zero => rfl
  | succ k ih =>
    obtain ⟨hdispatch, hcall⟩ := h k (Nat.lt_succ_self k)
    rw [afterTicks_succ, ram_tick hdispatch hcall]
    exact ih fun j hj => h j (Nat.lt_succ_of_lt hj)

end Machine

namespace Simulator

open Machine

lemma Operated.journaled {program : List UInt8} {c : Config} {output : Output}
    {past : List Machine} {m : Machine} (h : Operated program c output past m) :
    Journaled m.journal.toList
      (initial (Ram.image program c.ramSize) c.stackTop c.tracing output) m := by
  obtain ⟨s, ops, hload, rfl, rfl⟩ := h
  obtain ⟨-, -, rfl⟩ := load_eq_ok_iff.1 hload
  have hloaded : Journaled [.programLoaded program.length]
      (initial (Ram.image program c.ramSize) c.stackTop c.tracing output)
      (loaded program c output) := .note _ rfl rfl rfl rfl
  obtain ⟨es, hes⟩ := (kept_journaled _).history
    (s := ⟨loaded program c output, .ofConfig c, c.maxTicks⟩) ⟨_, hloaded⟩ ops
  have hall := hes.journal
  rw [show (initial (Ram.image program c.ramSize) c.stackTop c.tracing output).journal.toList = []
    from rfl, List.nil_append] at hall
  rw [hall]
  exact hes

/-- The machine after some ticks of its simulator. -/
lemma machine_operateAll_ticks (s : Simulator) (k : Nat) :
    (s.operateAll (List.replicate k .tick)).machine = s.machine.afterTicks k := by
  induction k generalizing s with
  | zero => rfl
  | succ k ih =>
    rw [List.replicate_succ, operateAll, ih]
    rfl

lemma Operated.afterTicks {program : List UInt8} {c : Config} {output : Output} {s : Simulator}
    (hload : load program c output = .ok s) (k : Nat) :
    Operated program c output (s.history (List.replicate k .tick)) (s.machine.afterTicks k) :=
  ⟨s, List.replicate k .tick, hload, rfl, (s.machine_operateAll_ticks k).symm⟩

/-- **The journal accounts for memory.**  Whatever is done to a simulator after a program was
loaded, its memory is the image of the program with the recorded pushes stored in it in order, and
every recorded pop has found what the pushes before it left in its cell.

A tick first records the pushes of the dispatch that it begins with, which are nine unless one of
them is the fault of the tick, and then the one push of the call that it retires; a pop in it has
found the byte that the cell has after the dispatch and still has after the tick.  All pushes of a
tick go to the cells below the stack pointer in turn, so it touches ten cells at most, and ticks
that neither dispatch nor call leave memory as it is. -/
theorem memory_is_journaled {program : List UInt8} {c : Config} {output : Output}
    {past : List Machine} {m : Machine} (h : Operated program c output past m) :
    m.ram = (Ram.image program c.ramSize).replay m.journal.toList
      ∧ (∀ before sp v after, m.journal.toList = before ++ .popped sp v :: after →
          ((Ram.image program c.ramSize).replay before).cell? sp.toNat = some v)
      ∧ (∃ saved called,
          (m.perform Machine.tick).2.journal.toList = m.journal.toList ++ (saved ++ called)
            ∧ (m.attemptsDispatch = false → pushes saved = [])
            ∧ (m.attemptsDispatch = true →
                (pushes saved).length = 9
                  ∨ (pushes saved).length < 9
                    ∧ (m.perform Machine.tick).1 = .error (.memoryOutOfBounds
                        (m.registers.stackPointer
                          - UInt8.ofNat ((pushes saved).length + 1)).toNat m.ram.size))
            ∧ (pushes called).length = (if m.retires .call then 1 else 0)
            ∧ (pushes (saved ++ called)).map (fun push => push.1.toNat) =
                cellsBelow m.registers.stackPointer (pushes (saved ++ called)).length
            ∧ ∀ sp v, .popped sp v ∈ saved ++ called →
                m.entered.ram.cell? sp.toNat = some v
                  ∧ (m.perform Machine.tick).2.ram = m.entered.ram)
      ∧ (∀ address, address ∉ cellsBelow m.registers.stackPointer 10 →
          (m.perform Machine.tick).2.ram.cell? address = m.ram.cell? address)
      ∧ ∀ k, (∀ j < k, (m.afterTicks j).attemptsDispatch = false
            ∧ (m.afterTicks j).retires .call = false) →
          (m.afterTicks k).ram = m.ram := by
  have hjournaled := h.journaled
  obtain ⟨saved, called, htick, hsaved, hcalled, hpopped⟩ := exists_journaled_tick m
  have hrow := cellsBelow_tick m
  rw [← hsaved, ← hcalled, ← accessed_append, ← pushes_append] at hrow
  have hlength := congrArg List.length hrow
  rw [accessed_length, length_cellsBelow] at hlength
  rw [← hlength] at hrow
  refine ⟨hjournaled.ram, hjournaled.popped, ⟨saved, called, htick.journal, ?_, ?_, ?_, hrow,
    hpopped⟩, fun address => cell?_tick_of_notMem, fun k hquiet => ram_afterTicks hquiet⟩
  · intro hdispatch
    rw [dispatchPushes_of_false hdispatch] at hsaved
    exact List.map_eq_nil_iff.1 hsaved
  · intro hdispatch
    have hcount := congrArg List.length hsaved
    rw [accessed_length, length_cellsBelow] at hcount
    rw [hcount]
    rcases Nat.eq_or_lt_of_le m.dispatchPushes_le with hnine | hshort
    · exact Or.inl hnine
    · exact Or.inr ⟨hshort, tick_of_dispatchPushes_lt hdispatch hshort⟩
  · rw [← accessed_length, hcalled]
    split <;> simp

/-- A program that raises an interrupt whose handler, at address 11, calls a return. -/
def callingHandler : List UInt8 :=
  [0x99, 5, 1, 0x99, 1, 13, 0x99, 6, 1, 0, 0, 0x48, 1, 0x0B] ++ List.replicate 234 0 ++ [11]

/-- The tick of the dispatch pushes ten bytes and touches no other cell, and the return that the
next tick comes to finds the last of them. -/
theorem memory_is_journaled_callingHandler :
    ∃ past m past' called, Operated callingHandler {} .unlimited past m
      ∧ Operated callingHandler {} .unlimited past' called
      ∧ called = (m.perform Machine.tick).2
      ∧ (∃ recorded, called.journal.toList = m.journal.toList ++ recorded
          ∧ (pushes recorded).map (fun push => push.1.toNat) = cellsBelow 0xF4 10)
      ∧ called.ram.cell? 0xE9 = m.ram.cell? 0xE9
      ∧ called.ram = (Ram.image callingHandler 256).replay called.journal.toList
      ∧ .popped 0xEA 13 ∈ (called.perform Machine.tick).2.journal
      ∧ called.entered.ram.cell? 0xEA = some 13 := by
  obtain ⟨s, hload, hs⟩ : ∃ s, load callingHandler {} .unlimited = .ok s
      ∧ s.machine = loaded callingHandler {} .unlimited :=
    ⟨_, load_eq_ok_iff.2 ⟨(Config.validate_eq_ok_iff _).1 rfl, by decide +kernel, rfl⟩, rfl⟩
  have hraised := Operated.afterTicks hload 3
  have hcalled := Operated.afterTicks hload 4
  rw [hs] at hraised hcalled
  obtain ⟨hdispatch, hcall, hok, hsp⟩ :
      ((loaded callingHandler {} .unlimited).afterTicks 3).attemptsDispatch = true
        ∧ ((loaded callingHandler {} .unlimited).afterTicks 3).retires .call = true
        ∧ (((loaded callingHandler {} .unlimited).afterTicks 3).perform Machine.tick).1 = .ok ()
        ∧ ((loaded callingHandler {} .unlimited).afterTicks 3).registers.stackPointer = 0xF4 := by
    decide +kernel
  obtain ⟨-, -, ⟨saved, calling, hjournal, -, hnine, hone, hrow, -⟩, houtside, -⟩ :=
    memory_is_journaled hraised
  have hsaved : (pushes saved).length = 9 := by
    rcases hnine hdispatch with hall | ⟨-, hfault⟩
    · exact hall
    · rw [hok] at hfault
      cases hfault
  rw [pushes_append, List.length_append, hsaved, hone, if_pos hcall, hsp] at hrow
  obtain ⟨hram, -, ⟨saved', calling', hjournal', -, -, -, -, hpopped⟩, -⟩ :=
    memory_is_journaled hcalled
  obtain ⟨hpop, hnew⟩ :
      .popped 0xEA 13 ∈
          (((loaded callingHandler {} .unlimited).afterTicks 4).perform Machine.tick).2.journal
        ∧ .popped 0xEA 13 ∉
          ((loaded callingHandler {} .unlimited).afterTicks 4).journal.toList := by
    decide +kernel
  have hmem : .popped 0xEA 13 ∈ saved' ++ calling' := by
    have hall := Array.mem_toList_iff.2 hpop
    rw [hjournal'] at hall
    exact (List.mem_append.1 hall).resolve_left hnew
  have hnext : (loaded callingHandler {} .unlimited).afterTicks 4 =
      (((loaded callingHandler {} .unlimited).afterTicks 3).perform Machine.tick).2 :=
    afterTicks_succ 3
  rw [← hnext] at hjournal houtside
  refine ⟨_, _, _, _, hraised, hcalled, hnext, ⟨saved ++ calling, hjournal, ?_⟩,
    houtside 0xE9 ?_, hram, hpop, (hpopped 0xEA 13 hmem).1⟩
  · rw [pushes_append]
    exact hrow
  · rw [hsp]
    decide

end Simulator

end LS8
