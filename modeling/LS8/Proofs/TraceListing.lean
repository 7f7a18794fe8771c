import LS8.Proofs.Listing
import LS8.Proofs.MemoryJournal

/-!
# The trace follows the listing

A machine that traces writes a line for every instruction that it comes to, and a listing has a line
for every segment of the bytes.  The two read the same bytes in different ways: the machine fetches
three of them wherever its program counter stands and stops at a byte that is no opcode, while the
listing starts at the first byte, goes on after an unknown one and ends with the bytes.

As long as the program counter is not sent elsewhere they stay in step.  The invariant is `Walking`:
the listing is what has been traced so far followed by the listing of the bytes from the program
counter on.  A tick that comes to an instruction moves one line over (`Walking.ahead_tick`), and
memory stays as it was loaded because nothing is pushed on the way.
-/

namespace LS8

open Text

/-- The lines of the trace among some events. -/
def traceLines (es : List Event) : List String :=
  (decodings es).map fun d => (Event.decoded d.1 d.2).message

lemma message_decoded (pc : Nat) (i : Instruction) :
    (Event.decoded pc i).message = hexAddress pc ++ ": " ++ i.text :=
  String.append_empty

lemma length_segments_le (bytes : List UInt8) : (segments bytes).length ≤ bytes.length := by
  induction bytes using segments.induct with
  | case1 =>
    rw [segments]
    exact Nat.le_refl _
  | case2 b rest ih =>
    rw [segments, List.length_cons, List.length_cons]
    rw [List.length_drop] at ih
    omega

lemma length_listing_le (program : List UInt8) : (listing program).length ≤ program.length := by
  rw [listing, length_listingFrom]
  exact length_segments_le program

namespace Machine

variable {m m' : Machine} {i : Instruction} {image : List UInt8} {past : List Machine}

/-- The next tick comes to an instruction and ends in a fault, which is then one of carrying the
instruction out. -/
def failsInInstruction (m : Machine) : Bool :=
  m.executes?.isSome && !(m.perform tick).1.isOk

lemma Leaves.traceLines {pushed popped : List Nat} {found : List (Nat × Instruction)}
    (h : Leaves pushed popped found m m') :
    LS8.traceLines m'.journal.toList = LS8.traceLines m.journal.toList
      ++ found.map fun d => (Event.decoded d.1 d.2).message := by
  obtain ⟨es, hes, -, -, rfl⟩ := h
  rw [hes.journal, LS8.traceLines, decodings_append, List.map_append]
  rfl

lemma Leaves.traceLines_eq {pushed popped : List Nat} (h : Leaves pushed popped [] m m') :
    LS8.traceLines m'.journal.toList = LS8.traceLines m.journal.toList := by
  rw [h.traceLines, List.map_nil, List.append_nil]

/-! ## One tick -/

/-- What a tracing machine adds to the trace: a line if it comes to an instruction. -/
lemma traceLines_tick (hphase : m.phase ≠ .halted) (htracing : m.tracing = true) :
    traceLines (m.perform tick).2.journal.toList = traceLines m.journal.toList
      ++ m.executes?.toList.map fun i => hexAddress m.entered.pc ++ ": " ++ i.text := by
  have hall := leaves_begun.trans (m.begun.leaves_entered.trans (leaves_tick hphase))
  rw [hall.traceLines, nextDecodings, if_pos htracing, List.nil_append, List.nil_append,
    List.map_map]
  simp only [Function.comp_def, message_decoded]

/-- A tick that enters no handler and comes to an instruction starts with it. -/
lemma dueLine?_of_executes? (h : m.executes? = some i) (henters : m.entersHandler = false) :
    m.dueLine? = none := by
  obtain ⟨hphase, hdispatch, -⟩ := executes?_eq_some_iff.1 h
  rw [entersHandler, isHalted_of_ne hphase, dispatches, hdispatch] at henters
  cases hdue : m.dueLine? with
  | none => rfl
  | some line =>
    rw [hdue] at henters
    cases henters

/-- The bytes from the program counter on begin with the instruction that is found there. -/
lemma segments_drop_pc (hfetch : m.pc + 2 < m.ram.size) (hi : m.instruction? = some i) :
    segments (m.ram.toList.drop m.pc) =
      i.encode :: segments (m.ram.toList.drop (m.pc + i.length)) := by
  have hcells := m.ram.take_three_drop hfetch
  obtain ⟨op, hop, rfl⟩ := Option.map_eq_some_iff.1 hi
  rw [← Opcode.byte_eq_of_ofByte? hop] at hcells
  have hencode : Instruction.encode ⟨op, m.ram.byte (m.pc + 1), m.ram.byte (m.pc + 2)⟩ =
      (m.ram.toList.drop m.pc).take op.length := by
    show List.take op.length [op.byte, m.ram.byte (m.pc + 1), m.ram.byte (m.pc + 2)] = _
    rw [← hcells, List.take_take, Nat.min_eq_left op.length_le_three]
  rw [← List.take_append_drop op.length (m.ram.toList.drop m.pc), ← hencode,
    segments_encode_append, List.drop_drop]
  rfl

/-- An instruction that neither jumps nor halts is followed by the one behind it. -/
lemma pc_tick_of_retires? (h : m.retires? = some i) (hbranch : m.takesBranch = false)
    (hgoes : (m.perform tick).2.phase ≠ .halted) :
    (m.perform tick).2.pc = m.entered.pc + i.length := by
  have hagrees := agrees_entered_of_retires? h
  rw [takesBranch, h, Option.any_some, jumps_eq] at hbranch
  rw [perform_tick_of_retires? h] at hgoes ⊢
  rw [carriedOut, hagrees.flow] at hgoes ⊢
  cases hflow : i.flow m.entered with
  | jump target =>
    rw [hflow] at hbranch
    cases hbranch
  | halt =>
    rw [hflow] at hgoes
    exact absurd rfl hgoes
  | next =>
    show (i.effect (m.begun.serviced.traced i)).pc + i.length = _
    rw [Instruction.pc_effect, (agrees_traced _ i).pc, hagrees.pc]

lemma not_call_of_takesBranch (h : m.takesBranch = false) : m.retires .call = false := by
  by_contra hcall
  obtain ⟨i, hretires, hopcode⟩ := exists_of_retires (Bool.not_eq_false _ ▸ hcall)
  rw [takesBranch, hretires, Option.any_some, hopcode] at h
  cases h

/-! ## A walk through the listing -/

/-- The machine stands where its trace has come to in the listing of the image. -/
structure Walking (image : List UInt8) (m : Machine) : Prop where
  tracing : m.tracing = true
  ram : m.ram.toList = image
  ahead : listing image =
    traceLines m.journal.toList ++ listingFrom m.pc (segments (image.drop m.pc))

namespace Walking

/-- The instruction that a tick comes to is the next line of the listing. -/
lemma ahead_tick (h : Walking image m) (hexecutes : m.executes? = some i)
    (henters : m.entersHandler = false) :
    listing image = traceLines (m.perform tick).2.journal.toList
      ++ listingFrom (m.pc + i.length) (segments (image.drop (m.pc + i.length))) := by
  obtain ⟨hphase, -, hdecode⟩ := executes?_eq_some_iff.1 hexecutes
  have hentered := entered_of_quiet (dueLine?_of_executes? hexecutes henters)
  rw [hentered] at hdecode
  obtain ⟨hfetch, hi⟩ := perform_decode_eq_ok_iff.1 hdecode
  have hcells : m.pc + 2 < m.ram.size := by
    by_contra hshort
    rw [fetchFault?, if_neg hshort] at hfetch
    cases hfetch
  have hsegments := segments_drop_pc hcells hi
  rw [h.ram] at hsegments
  rw [traceLines_tick hphase h.tracing, hexecutes, hentered, h.ahead, hsegments, listingFrom,
    i.disassemble_encode, i.length_encode, List.append_assoc]
  rfl

/-- A machine that has retired an instruction and goes on is still in step. -/
lemma tick (h : Walking image m) (hretires : m.retires? = some i) (hbranch : m.takesBranch = false)
    (henters : m.entersHandler = false) (hgoes : (m.perform Machine.tick).2.phase ≠ .halted) :
    Walking image (m.perform Machine.tick).2 := by
  have hexecutes := executes?_of_retires? hretires
  have hquiet := dueLine?_of_executes? hexecutes henters
  have hpc := pc_tick_of_retires? hretires hbranch hgoes
  rw [entered_of_quiet hquiet] at hpc
  refine ⟨?_, ?_, ?_⟩
  · rw [perform_tick_of_retires? hretires, tracing_carriedOut, tracing_serviced, tracing_begun,
      h.tracing]
  · have hdispatch : m.attemptsDispatch = false := by
      rw [attemptsDispatch, hquiet, Option.isSome_none, Bool.and_false]
    rw [ram_tick hdispatch (not_call_of_takesBranch hbranch), h.ram]
  · rw [hpc]
    exact h.ahead_tick hexecutes henters

/-- What only adds other events to the journal does not matter. -/
lemma of_leaves {pushed popped : List Nat} (h : Walking image m)
    (hleaves : Leaves pushed popped [] m m') (htracing : m'.tracing = m.tracing)
    (hram : m'.ram = m.ram) (hpc : m'.pc = m.pc) :
    Walking image m' := by
  refine ⟨htracing.trans h.tracing, hram ▸ h.ram, ?_⟩
  rw [hleaves.traceLines_eq, hpc]
  exact h.ahead

end Walking

/-- The last of the ticks that were not ignored has failed in its instruction. -/
def lastFails (past : List Machine) : Bool :=
  (past.filter fun p => !p.isHalted).getLast?.any failsInInstruction

lemma lastFails_append_of_halted (h : m.phase = .halted) :
    lastFails (past ++ [m]) = lastFails past := by
  rw [lastFails, List.filter_append, List.filter_singleton, isHalted_of_halted h]
  simp [lastFails]

lemma lastFails_append_of_ne (h : m.phase ≠ .halted) :
    lastFails (past ++ [m]) = m.failsInInstruction := by
  rw [lastFails, List.filter_append, List.filter_singleton, isHalted_of_ne h]
  simp

/-- The trace after some ticks is the beginning of the listing, with a line for each instruction
that retired and for one that failed. -/
structure Walked (image : List UInt8) (past : List Machine) (m : Machine) : Prop where
  lines : traceLines m.journal.toList <+: listing image
  count : (traceLines m.journal.toList).length = retirements past + if lastFails past then 1 else 0
  going : m.phase ≠ .halted → Walking image m ∧ lastFails past = false

namespace Walked

lemma of_leaves {pushed popped : List Nat} (h : Walked image past m)
    (hleaves : Leaves pushed popped [] m m') (hphase : m'.phase = .halted ↔ m.phase = .halted)
    (htracing : m'.tracing = m.tracing) (hram : m'.ram = m.ram) (hpc : m'.pc = m.pc) :
    Walked image past m' := by
  have hsame := hleaves.traceLines_eq
  refine ⟨hsame ▸ h.lines, hsame ▸ h.count, fun hgoes => ?_⟩
  obtain ⟨hwalking, hlast⟩ := h.going (mt hphase.2 hgoes)
  exact ⟨hwalking.of_leaves hleaves htracing hram hpc, hlast⟩

lemma tick (h : Walked image past m) (hbranch : m.takesBranch = false)
    (henters : m.entersHandler = false) :
    Walked image (past ++ [m]) (m.perform Machine.tick).2 := by
  cases m.outcome with
  | ignored hphase htick =>
    rw [htick]
    refine ⟨h.lines, ?_, fun hgoes => absurd hphase hgoes⟩
    rw [retirements_append, lastFails_append_of_halted hphase, retires?_of_halted hphase]
    exact h.count
  | faulted fault hphase hretires htick =>
    obtain ⟨hwalking, hlast⟩ := h.going hphase
    have hcount := h.count
    rw [hlast] at hcount
    have hfails : m.failsInInstruction = m.executes?.isSome := by
      rw [failsInInstruction, htick]
      exact Bool.and_true _
    refine ⟨?_, ?_, fun hgoes => ?_⟩
    · cases hexecutes : m.executes? with
      | none =>
        rw [traceLines_tick hphase hwalking.tracing, hexecutes, Option.toList_none, List.map_nil,
          List.append_nil]
        exact h.lines
      | some i => exact ⟨_, (hwalking.ahead_tick hexecutes henters).symm⟩
    · rw [retirements_append, lastFails_append_of_ne hphase, hretires, hfails,
        traceLines_tick hphase hwalking.tracing, List.length_append, hcount, List.length_map]
      cases m.executes? <;> rfl
    · rw [htick] at hgoes
      exact absurd rfl hgoes
  | retired i hphase hretires htick =>
    obtain ⟨hwalking, hlast⟩ := h.going hphase
    have hcount := h.count
    rw [hlast] at hcount
    have hexecutes := executes?_of_retires? hretires
    have hfails : m.failsInInstruction = false := by
      rw [failsInInstruction, htick]
      exact Bool.and_false _
    refine ⟨⟨_, (hwalking.ahead_tick hexecutes henters).symm⟩, ?_, fun hgoes => ⟨?_, ?_⟩⟩
    · rw [retirements_append, lastFails_append_of_ne hphase, hretires, hfails,
        traceLines_tick hphase hwalking.tracing, hexecutes, List.length_append, hcount]
      rfl
    · exact hwalking.tick hretires hbranch henters hgoes
    · rw [lastFails_append_of_ne hphase, hfails]

end Walked

/-! ## Runs -/

lemma kept_walked (image : List UInt8) :
    Simulator.Kept fun past m =>
      (∀ p ∈ past, p.takesBranch = false ∧ p.entersHandler = false) → Walked image past m where
  start := by
    intro past m h hstraight
    refine (h hstraight).of_leaves leaves_started phase_started_eq_halted_iff ?_ ?_ ?_
    all_goals
      rw [started]
      split <;> rfl
  tick := by
    intro past m h hstraight
    rw [List.forall_mem_append, List.forall_mem_singleton] at hstraight
    obtain ⟨hpast, hbranch, henters⟩ := hstraight
    exact (h hpast).tick hbranch henters
  note := by
    intro past m ticks h hstraight
    have hnoted : Leaves [] [] [] m
        { m with journal := m.journal.push (.tickLimitReached ticks) } :=
      .note _ rfl rfl rfl rfl rfl
    exact (h hstraight).of_leaves hnoted .rfl rfl rfl rfl

end Machine

namespace Simulator

open Machine

variable {program : List UInt8} {c : Config} {output : Output} {s : Simulator}

lemma walked_operateAll (hload : load program c output = .ok s) (htracing : c.tracing = true)
    (ops : List Operation)
    (hstraight : ∀ p ∈ s.history ops, p.takesBranch = false ∧ p.entersHandler = false) :
    Walked s.machine.ram.toList (s.history ops) (s.operateAll ops).machine := by
  obtain ⟨-, -, rfl⟩ := load_eq_ok_iff.1 hload
  have hloaded : Walked (loaded program c output).ram.toList [] (loaded program c output) :=
    ⟨List.nil_prefix, rfl, fun _ => ⟨⟨htracing, rfl, rfl⟩, rfl⟩⟩
  exact (kept_walked _).history (fun _ => hloaded) ops hstraight

lemma length_ram_of_load (hload : load program c output = .ok s) :
    s.machine.ram.toList.length ≤ 256 := by
  obtain ⟨hvalid, hfits, rfl⟩ := load_eq_ok_iff.1 hload
  exact (Reached.loaded hvalid hfits).size_ram_le

/-- **The trace follows the listing.**  Whatever is done to a simulator that traces, as long as no
branch was taken, a return being one, and no interrupt was dispatched, the lines of its trace are
the first lines of the listing of the memory as it was loaded, and there are as many of them as
instructions have retired, or one more if the last tick failed in its instruction. -/
theorem trace_follows_listing (hload : load program c output = .ok s) (htracing : c.tracing = true)
    (ops : List Operation)
    (hstraight : ∀ p ∈ s.history ops, p.takesBranch = false ∧ p.entersHandler = false) :
    traceLines (s.operateAll ops).machine.journal.toList <+: listing s.machine.ram.toList
      ∧ (traceLines (s.operateAll ops).machine.journal.toList).length =
          (s.operateAll ops).machine.statistics.retired.toNat
            + if lastFails (s.history ops) then 1 else 0 := by
  have hwalked := walked_operateAll hload htracing ops hstraight
  have hledger : Ledger (s.history ops) (s.operateAll ops).machine :=
    Operated.ledger ⟨s, ops, hload, rfl, rfl⟩
  -- the listing has no more lines than memory has cells, so the counter cannot have wrapped
  have hfew : retirements (s.history ops) < 2 ^ 64 := by
    have hcount := hwalked.count
    have hlines := hwalked.lines.length_le
    have hlisting := length_listing_le s.machine.ram.toList
    have hcells := length_ram_of_load hload
    omega
  have hretired : (s.operateAll ops).machine.statistics.retired.toNat =
      retirements (s.history ops) := by
    rw [hledger.accounts.retired]
    exact UInt64.toNat_ofNat_of_lt' hfew
  refine ⟨hwalked.lines, ?_⟩
  rw [hretired]
  exact hwalked.count

/-- A program with a jump that is not taken, which goes on to divide by zero. -/
def dividingByZero : List UInt8 :=
  [0x99, 0, 1, 0xA0, 0, 1, 0x51, 0, 0xAB, 0, 1]

/-- The trace ends with the division, which does not retire; the tick after it is ignored. -/
theorem trace_follows_listing_dividingByZero :
    ∃ s, ∃ ops : List Operation, load dividingByZero { tracing := true } .unlimited = .ok s
      ∧ ops = List.replicate 5 .tick
      ∧ (∀ p ∈ s.history ops, p.takesBranch = false ∧ p.entersHandler = false)
      ∧ (s.operateAll ops).machine.statistics.retired = 3
      ∧ lastFails (s.history ops) = true
      ∧ traceLines (s.operateAll ops).machine.journal.toList <+: listing s.machine.ram.toList
      ∧ (traceLines (s.operateAll ops).machine.journal.toList).length = 4
      ∧ (traceLines (s.operateAll ops).machine.journal.toList)[2]? = some "0x06: JEQ R0" := by
  obtain ⟨s, hload, hs⟩ : ∃ s, load dividingByZero { tracing := true } .unlimited = .ok s
      ∧ s = ⟨loaded dividingByZero { tracing := true } .unlimited,
        .ofConfig { tracing := true }, none⟩ :=
    ⟨_, load_eq_ok_iff.2 ⟨(Config.validate_eq_ok_iff _).1 rfl, by decide, rfl⟩, rfl⟩
  obtain ⟨hstraight, hretired, hlast⟩ :
      (∀ p ∈ s.history (List.replicate 5 .tick), p.takesBranch = false ∧ p.entersHandler = false)
        ∧ (s.operateAll (List.replicate 5 .tick)).machine.statistics.retired = 3
        ∧ lastFails (s.history (List.replicate 5 .tick)) = true := by
    rw [hs]
    decide +kernel
  obtain ⟨hlines, hcount⟩ := trace_follows_listing hload rfl (List.replicate 5 .tick) hstraight
  rw [hretired, hlast] at hcount
  refine ⟨s, _, hload, rfl, hstraight, hretired, hlast, hlines, hcount, ?_⟩
  rw [hs]
  decide +kernel

end Simulator

end LS8
