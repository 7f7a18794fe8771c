import LS8.Proofs.FlagExclusion

/-!
# What a tick records

The journal of a machine only grows, and its pushes and pops speak about memory.
`Journaled es m m'` says that between `m` and `m'` exactly the events `es` were recorded, that
memory has changed by the pushes among them and by nothing else, and that each pop among them found
the byte that was in its cell by then.  These facts add up along a run (`Journaled.trans`).

`Leaves` says in addition which cells were pushed to and popped from and which instructions were
recorded.  It is shown for every part of a tick, and then for its two halves: the dispatch that a
tick begins with (`leaves_entered`) and the instruction that it comes to (`leaves_tick`).
-/

namespace LS8

/-! ## Pushes, pops and instructions in a journal -/

namespace Event

/-- The stack pointer and the byte of a push. -/
def push? : Event → Option (UInt8 × UInt8)
  | pushed sp v => some (sp, v)
  | _ => none

/-- The stack pointer and the byte of a pop. -/
def pop? : Event → Option (UInt8 × UInt8)
  | popped sp v => some (sp, v)
  | _ => none

/-- The address and the instruction of a line of the trace. -/
def decoding? : Event → Option (Nat × Instruction)
  | decoded pc i => some (pc, i)
  | _ => none

end Event

/-- The pushes among some events, in order. -/
def pushes (es : List Event) : List (UInt8 × UInt8) :=
  es.filterMap Event.push?

/-- The pops among some events, in order. -/
def pops (es : List Event) : List (UInt8 × UInt8) :=
  es.filterMap Event.pop?

/-- The instructions among some events, each with its address, in order. -/
def decodings (es : List Event) : List (Nat × Instruction) :=
  es.filterMap Event.decoding?

/-- The cells that some accesses name. -/
def accessed (accesses : List (UInt8 × UInt8)) : List Nat :=
  accesses.map fun access => access.1.toNat

lemma pushes_append (es fs : List Event) : pushes (es ++ fs) = pushes es ++ pushes fs :=
  List.filterMap_append

lemma pops_append (es fs : List Event) : pops (es ++ fs) = pops es ++ pops fs :=
  List.filterMap_append

lemma decodings_append (es fs : List Event) :
    decodings (es ++ fs) = decodings es ++ decodings fs :=
  List.filterMap_append

lemma accessed_append (xs ys : List (UInt8 × UInt8)) :
    accessed (xs ++ ys) = accessed xs ++ accessed ys :=
  List.map_append

lemma mem_pops_of_mem {sp v : UInt8} {es : List Event} (h : .popped sp v ∈ es) :
    (sp, v) ∈ pops es :=
  List.mem_filterMap.2 ⟨_, h, rfl⟩

namespace Ram

/-- The memory with the pushes among some events stored in it, one after the other. -/
def replay (ram : Ram) (es : List Event) : Ram :=
  (pushes es).foldl (fun ram push => ram.store push.1.toNat push.2) ram

variable (ram : Ram)

lemma replay_append (es fs : List Event) : ram.replay (es ++ fs) = (ram.replay es).replay fs := by
  rw [replay, pushes_append, List.foldl_append]
  rfl

lemma replay_of_pushes_eq_nil {es : List Event} (h : pushes es = []) : ram.replay es = ram := by
  rw [replay, h]
  rfl

/-- A replay leaves the cells alone that no push names. -/
lemma cell?_replay_of_notMem {es : List Event} {address : Nat}
    (h : address ∉ accessed (pushes es)) : (ram.replay es).cell? address = ram.cell? address := by
  rw [replay]
  generalize pushes es = writes at h ⊢
  induction writes generalizing ram with
  | nil => rfl
  | cons push rest ih =>
    rw [accessed, List.map_cons, List.mem_cons, not_or] at h
    rw [List.foldl_cons, ih _ h.2]
    exact ram.cell?_store_of_ne _ (Ne.symm h.1)

end Ram

namespace Machine

/-! ## Events and memory between two points of a life -/

/-- Between the two machines the events `es` were recorded, the pushes among them are what happened
to memory, and the pops among them have found what was there. -/
structure Journaled (es : List Event) (m m' : Machine) : Prop where
  journal : m'.journal.toList = m.journal.toList ++ es
  ram : m'.ram = m.ram.replay es
  popped : ∀ before sp v after, es = before ++ .popped sp v :: after →
    (m.ram.replay before).cell? sp.toNat = some v

namespace Journaled

variable {m m' m'' : Machine} {es fs : List Event}

/-- Nothing is recorded and nothing is stored. -/
lemma silent (hjournal : m'.journal = m.journal) (hram : m'.ram = m.ram) : Journaled [] m m' := by
  refine ⟨?_, hram, ?_⟩
  · rw [hjournal, List.append_nil]
  · intro before sp v after hsplit
    simp at hsplit

lemma trans (h : Journaled es m m') (h' : Journaled fs m' m'') : Journaled (es ++ fs) m m'' := by
  refine ⟨?_, ?_, ?_⟩
  · rw [h'.journal, h.journal, List.append_assoc]
  · rw [h'.ram, h.ram, Ram.replay_append]
  · intro before sp v after hsplit
    obtain ⟨rest, hbefore, hfs⟩ | ⟨rest, hes, hrest⟩ := List.append_eq_append_iff.1 hsplit
    · -- the pop is among the later events, which start from what the earlier ones have stored
      rw [hbefore, Ram.replay_append, ← h.ram]
      exact h'.popped rest sp v after hfs
    · cases rest with
      | nil =>
        rw [List.append_nil] at hes
        rw [← hes, ← h.ram]
        exact h'.popped [] sp v after hrest.symm
      | cons e rest =>
        rw [List.cons_append, List.cons.injEq] at hrest
        obtain ⟨rfl, -⟩ := hrest
        exact h.popped before sp v rest hes

/-- One event that is neither a push nor a pop. -/
lemma note (e : Event) (hjournal : m'.journal = m.journal.push e) (hram : m'.ram = m.ram)
    (hpush : e.push? = none) (hpop : e.pop? = none) : Journaled [e] m m' := by
  refine ⟨?_, ?_, ?_⟩
  · rw [hjournal, Array.toList_push]
  · rw [hram, Ram.replay_of_pushes_eq_nil]
    simp [pushes, hpush]
  · intro before sp v after hsplit
    have hmem : .popped sp v ∈ [e] := hsplit ▸ List.mem_append_right _ List.mem_cons_self
    obtain rfl := List.mem_singleton.1 hmem
    cases hpop

lemma pushed (v : UInt8) (m : Machine) :
    Journaled [.pushed (m.registers.stackPointer - 1) v] m (m.pushed v) := by
  refine ⟨Array.toList_push, rfl, ?_⟩
  intro before sp w after hsplit
  have hmem : .popped sp w ∈ [Event.pushed (m.registers.stackPointer - 1) v] :=
    hsplit ▸ List.mem_append_right _ List.mem_cons_self
  cases List.mem_singleton.1 hmem

lemma pop (h : m.registers.stackPointer.toNat < m.ram.size) :
    Journaled [.popped m.registers.stackPointer m.top] m m.popped := by
  refine ⟨Array.toList_push, rfl, ?_⟩
  intro before sp v after hsplit
  obtain ⟨rfl, hpopped⟩ : before = []
      ∧ Event.popped sp v = .popped m.registers.stackPointer m.top := by
    cases before with
    | nil => exact ⟨rfl, (List.cons.inj hsplit).1.symm⟩
    | cons e before => simp at hsplit
  cases hpopped
  exact m.ram.cell?_of_lt h

/-- A run without pushes stores nothing. -/
lemma ram_of_pushes_eq_nil (h : Journaled es m m') (hpushes : pushes es = []) : m'.ram = m.ram := by
  rw [h.ram, Ram.replay_of_pushes_eq_nil _ hpushes]

/-- Without pushes, every pop finds the byte that its cell had all along. -/
lemma cell?_of_mem (h : Journaled es m m') (hpushes : pushes es = []) {sp v : UInt8}
    (hpop : .popped sp v ∈ es) : m.ram.cell? sp.toNat = some v := by
  obtain ⟨before, after, rfl⟩ := List.append_of_mem hpop
  rw [pushes_append, List.append_eq_nil_iff] at hpushes
  rw [← h.popped before sp v after rfl, Ram.replay_of_pushes_eq_nil _ hpushes.1]

end Journaled

/-- Between the two machines the cells of `pushed` were pushed to, those of `popped` were popped
from, and the instructions of `found` were recorded; memory and journal fit together. -/
def Leaves (pushed popped : List Nat) (found : List (Nat × Instruction)) (m m' : Machine) : Prop :=
  ∃ es, Journaled es m m' ∧ accessed (pushes es) = pushed ∧ accessed (pops es) = popped
    ∧ decodings es = found

namespace Leaves

variable {m m' m'' : Machine} {pushed pushed' popped popped' : List Nat}
  {found found' : List (Nat × Instruction)}

lemma silent (hjournal : m'.journal = m.journal) (hram : m'.ram = m.ram) :
    Leaves [] [] [] m m' :=
  ⟨[], .silent hjournal hram, rfl, rfl, rfl⟩

lemma trans (h : Leaves pushed popped found m m') (h' : Leaves pushed' popped' found' m' m'') :
    Leaves (pushed ++ pushed') (popped ++ popped') (found ++ found') m m'' := by
  obtain ⟨es, hes, rfl, rfl, rfl⟩ := h
  obtain ⟨fs, hfs, rfl, rfl, rfl⟩ := h'
  refine ⟨es ++ fs, hes.trans hfs, ?_, ?_, decodings_append es fs⟩
  · rw [pushes_append, accessed_append]
  · rw [pops_append, accessed_append]

/-- Nothing more that matters is recorded. -/
lemma then_silent (h : Leaves pushed popped found m m') (h' : Leaves [] [] [] m' m'') :
    Leaves pushed popped found m m'' := by
  have hall := h.trans h'
  rwa [List.append_nil, List.append_nil, List.append_nil] at hall

lemma after_silent (h : Leaves [] [] [] m m') (h' : Leaves pushed popped found m' m'') :
    Leaves pushed popped found m m'' :=
  h.trans h'

/-- One event that is neither a push nor a pop nor an instruction. -/
lemma note (e : Event) (hjournal : m'.journal = m.journal.push e) (hram : m'.ram = m.ram)
    (hpush : e.push? = none) (hpop : e.pop? = none) (hdecoding : e.decoding? = none) :
    Leaves [] [] [] m m' := by
  refine ⟨[e], .note e hjournal hram hpush hpop, ?_, ?_, ?_⟩
  · simp [accessed, pushes, hpush]
  · simp [accessed, pops, hpop]
  · simp [decodings, hdecoding]

end Leaves

/-! ## The parts of a tick -/

variable {m : Machine} {i : Instruction}

lemma leaves_pushed (v : UInt8) (m : Machine) :
    Leaves [(m.registers.stackPointer - 1).toNat] [] [] m (m.pushed v) :=
  ⟨_, .pushed v m, rfl, rfl, rfl⟩

lemma leaves_pushedAll (vs : List UInt8) (m : Machine) :
    Leaves (cellsBelow m.registers.stackPointer vs.length) [] [] m (pushedAll vs m) := by
  induction vs generalizing m with
  | nil =>
    rw [pushedAll]
    exact .silent rfl rfl
  | cons v rest ih =>
    have hrest := ih (m.pushed v)
    rw [stackPointer_pushed] at hrest
    rw [pushedAll, List.length_cons, cellsBelow_succ]
    exact (leaves_pushed v m).trans hrest

lemma leaves_popped (h : m.registers.stackPointer.toNat < m.ram.size) :
    Leaves [] [m.registers.stackPointer.toNat] [] m m.popped :=
  ⟨_, .pop h, rfl, rfl, rfl⟩

lemma leaves_restored {rs : List Register} (hsp : Register.stackPointer ∉ rs)
    (hcells : ∀ address ∈ cellsFrom m.registers.stackPointer rs.length, address < m.ram.size) :
    Leaves [] (cellsFrom m.registers.stackPointer rs.length) [] m (restored rs m) := by
  induction rs generalizing m with
  | nil =>
    rw [restored]
    exact .silent rfl rfl
  | cons r rest ih =>
    rw [List.mem_cons, not_or] at hsp
    rw [List.length_cons, cellsFrom_succ] at hcells ⊢
    rw [List.forall_mem_cons] at hcells
    have hnext : ({ m.popped with
          registers := m.popped.registers.write r m.top } : Machine).registers.stackPointer
        = m.registers.stackPointer + 1 := by
      rw [← stackPointer_popped]
      exact Registers.stackPointer_write_of_ne _ _ (Ne.symm hsp.1)
    have hwritten : Leaves [] [] [] m.popped { m.popped with
        registers := m.popped.registers.write r m.top } := .silent rfl rfl
    rw [restored]
    refine ((leaves_popped hcells.1).then_silent hwritten).trans ?_
    rw [← hnext] at hcells ⊢
    exact ih hsp.2 hcells.2

/-! ### Dispatch -/

/-- How many bytes the next tick saves before it comes to its instruction. -/
def savedBytes (m : Machine) : Nat :=
  if m.dueLine?.isSome then m.ram.reach (cellsBelow m.registers.stackPointer 9) else 0

lemma Agrees.savedBytes {m' : Machine} (h : Agrees m m') : m.savedBytes = m'.savedBytes := by
  rw [Machine.savedBytes, Machine.savedBytes, h.dueLine?, h.ram, h.registers]

lemma leaves_dispatched {line : Nat} :
    Leaves (cellsBelow m.registers.stackPointer 9) [] [] m (m.dispatched line) := by
  have hnoted : Leaves [] [] [] m (m.acknowledged line) := .silent rfl rfl
  have hsaved := leaves_pushedAll (m.acknowledged line).frame (m.acknowledged line)
  rw [length_frame, stackPointer_acknowledged] at hsaved
  exact (hnoted.after_silent hsaved).then_silent (.note _ rfl rfl rfl rfl rfl)

lemma leaves_dispatchBroken {line : Nat} :
    Leaves (cellsBelow m.registers.stackPointer
      (m.ram.reach (cellsBelow m.registers.stackPointer 9))) [] [] m (m.dispatchBroken line) := by
  have hnoted : Leaves [] [] [] m (m.acknowledged line) := .silent rfl rfl
  have hreach := m.ram.reach_le_length (cellsBelow m.registers.stackPointer 9)
  have hsaved := leaves_pushedAll ((m.acknowledged line).frame.take
    (m.ram.reach (cellsBelow m.registers.stackPointer 9))) (m.acknowledged line)
  rw [length_cellsBelow] at hreach
  rw [List.length_take, length_frame, Nat.min_eq_left hreach, stackPointer_acknowledged] at hsaved
  exact hnoted.after_silent hsaved

variable (m) in
/-- What is recorded before a tick comes to its instruction. -/
lemma leaves_entered :
    Leaves (cellsBelow m.registers.stackPointer m.savedBytes) [] [] m m.entered := by
  rw [savedBytes]
  cases hdue : m.dueLine? with
  | none =>
    rw [entered_of_quiet hdue]
    exact .silent rfl rfl
  | some line =>
    rw [Option.isSome_some, if_pos rfl]
    cases hdispatch : m.dispatchFault? with
    | some fault =>
      rw [entered_of_some hdispatch, serviceBroken, hdue]
      exact leaves_dispatchBroken
    | none =>
      have hcells := hdispatch
      rw [dispatchFault?, hdue, Option.bind_some, dispatchCells, Ram.accessFault?_append,
        Option.or_eq_none_iff] at hcells
      rw [entered_of_none m hdispatch, serviced, hdue, Ram.reach_eq_length _ hcells.1,
        length_cellsBelow]
      exact leaves_dispatched

/-! ### Instructions -/

/-- One more pop after some that have taken the cells before it. -/
lemma Leaves.then_popped {m' : Machine} {k : Nat}
    (h : Leaves [] (cellsFrom m.registers.stackPointer k) [] m m')
    (hsp : m'.registers.stackPointer = m.registers.stackPointer + UInt8.ofNat k)
    (hram : m'.ram = m.ram)
    (hcell : (m.registers.stackPointer + UInt8.ofNat k).toNat < m.ram.size) :
    Leaves [] (cellsFrom m.registers.stackPointer (k + 1)) [] m m'.popped := by
  rw [← hsp, ← hram] at hcell
  rw [cellsFrom_concat, ← hsp]
  exact h.trans (leaves_popped hcell)

lemma leaves_flagsReturned
    (hcells : ∀ address ∈ cellsFrom m.registers.stackPointer 8, address < m.ram.size) :
    Leaves [] (cellsFrom m.registers.stackPointer 8) [] m m.flagsReturned := by
  rw [cellsFrom_concat, List.forall_mem_append, List.forall_mem_singleton] at hcells
  have hregisters : Leaves [] (cellsFrom m.registers.stackPointer 7) [] m m.registersReturned :=
    leaves_restored stackPointer_notMem hcells.1
  exact (hregisters.then_popped m.stackPointer_registersReturned m.ram_registersReturned
    hcells.2).then_silent (.silent rfl rfl)

lemma leaves_returned
    (hcells : ∀ address ∈ cellsFrom m.registers.stackPointer 9, address < m.ram.size) :
    Leaves [] (cellsFrom m.registers.stackPointer 9) [] m m.returned := by
  rw [cellsFrom_concat, List.forall_mem_append, List.forall_mem_singleton] at hcells
  exact ((leaves_flagsReturned hcells.1).then_popped m.stackPointer_flagsReturned
    m.ram_flagsReturned hcells.2).then_silent (.silent rfl rfl)

lemma leaves_returnBroken
    (h : m.ram.reach (cellsFrom m.registers.stackPointer 9) < 9) :
    Leaves [] (cellsFrom m.registers.stackPointer
      (m.ram.reach (cellsFrom m.registers.stackPointer 9))) [] m m.returnBroken := by
  have hcells : ∀ address ∈ cellsFrom m.registers.stackPointer
      (m.ram.reach (cellsFrom m.registers.stackPointer 9)), address < m.ram.size :=
    fun address hmem => Ram.lt_of_mem_cellsFrom_reach hmem
  rw [returnBroken]
  split
  · rename_i height
    rw [height] at hcells ⊢
    exact leaves_flagsReturned hcells
  · have hlength : (savedRegisters.reverse.take
        (m.ram.reach (cellsFrom m.registers.stackPointer 9))).length =
          m.ram.reach (cellsFrom m.registers.stackPointer 9) := by
      have hseven : savedRegisters.reverse.length = 7 := by decide
      rw [List.length_take, hseven]
      omega
    have hrow := leaves_restored (m := m)
      (fun hmem => stackPointer_notMem (List.mem_of_mem_take hmem))
      (hlength.symm ▸ hcells)
    rwa [hlength] at hrow

end Machine

namespace Instruction

open Machine

variable (i : Instruction) (m : Machine)

/-- The cells that an instruction pops from. -/
def poppedCells (i : Instruction) (m : Machine) : List Nat :=
  if i.opcode = .iret then
    cellsFrom m.registers.stackPointer (m.ram.reach (cellsFrom m.registers.stackPointer 9))
  else []

/-- The cells that an instruction pushes to if it does not fault. -/
def pushedCells (i : Instruction) (m : Machine) : List Nat :=
  if i.opcode = .call then cellsBelow m.registers.stackPointer 1 else []

variable {i m}

lemma leaves_effect (h : i.fault? m = none) :
    Leaves (i.pushedCells m) (i.poppedCells m) [] m (i.effect m) := by
  obtain ⟨op, a, b⟩ := i
  cases op with
  | call => exact leaves_pushed _ m
  | int => exact .note _ rfl rfl rfl rfl rfl
  | iret =>
    rw [fault?, Option.or_eq_none_iff] at h
    have hcells : m.ram.accessFault? (cellsFrom m.registers.stackPointer 9) = none := h.2
    have hreach := m.ram.reach_eq_length hcells
    rw [length_cellsFrom] at hreach
    rw [poppedCells, if_pos rfl, hreach]
    exact leaves_returned ((m.ram.accessFault?_eq_none_iff _).1 hcells)
  | _ => exact .silent rfl rfl

lemma leaves_broken {fault : Fault} (h : i.fault? m = some fault) :
    Leaves [] (i.poppedCells m) [] m (i.broken m) := by
  obtain ⟨op, a, b⟩ := i
  cases op with
  | iret =>
    have hcells : m.ram.accessFault? (cellsFrom m.registers.stackPointer 9) ≠ none := by
      intro hnone
      rw [fault?, Option.or_eq_some_iff] at h
      rcases h with hoperand | ⟨-, hdemand⟩
      · cases hoperand
      · rw [executionFault?, hnone] at hdemand
        cases hdemand
    rw [poppedCells, if_pos rfl]
    refine leaves_returnBroken ?_
    have hle := m.ram.reach_le_length (cellsFrom m.registers.stackPointer 9)
    rw [length_cellsFrom] at hle
    refine Nat.lt_of_le_of_ne hle fun hnine => hcells (m.ram.accessFault?_of_reach_eq ?_)
    rw [hnine, length_cellsFrom]
  | prn =>
    simp only [broken]
    split <;> exact .silent rfl rfl
  | _ => exact .silent rfl rfl

end Instruction

namespace Machine

variable {m : Machine} {i : Instruction}

/-! ### Ticks -/

lemma leaves_started : Leaves [] [] [] m m.started := by
  by_cases hidle : m.phase = .idle
  · refine .note (.clockStarted m.pc) ?_ m.agrees_begun.ram rfl rfl rfl
    rw [started, if_pos hidle]
  · rw [started_of_ne_idle hidle]
    exact .silent rfl rfl

lemma leaves_begun : Leaves [] [] [] m m.begun :=
  leaves_started.then_silent (.silent rfl rfl)

lemma leaves_traced (i : Instruction) (m : Machine) :
    Leaves [] [] (if m.tracing then [(m.pc, i)] else []) m (m.traced i) := by
  unfold traced
  by_cases htracing : m.tracing = true
  · rw [if_pos htracing, if_pos htracing]
    exact ⟨[.decoded m.pc i], .note _ rfl rfl rfl rfl, rfl, rfl, rfl⟩
  · rw [if_neg htracing, if_neg htracing]
    exact .silent rfl rfl

lemma leaves_followed (i : Instruction) (flow : Flow) : Leaves [] [] [] m (m.followed i flow) := by
  cases flow with
  | next | jump target => exact .silent rfl rfl
  | halt => exact .note _ rfl rfl rfl rfl rfl

lemma leaves_stop (fault : Fault) : Leaves [] [] [] m (m.stop fault) :=
  .note _ rfl rfl rfl rfl rfl

lemma Agrees.poppedCells {m' : Machine} (h : Agrees m m') (i : Instruction) :
    i.poppedCells m = i.poppedCells m' := by
  rw [Instruction.poppedCells, Instruction.poppedCells, h.ram, h.registers]

lemma Agrees.pushedCells {m' : Machine} (h : Agrees m m') (i : Instruction) :
    i.pushedCells m = i.pushedCells m' := by
  rw [Instruction.pushedCells, Instruction.pushedCells, h.registers]

lemma leaves_carriedOut (h : i.fault? m = none) :
    Leaves (i.pushedCells m) (i.poppedCells m) (if m.tracing then [(m.pc, i)] else []) m
      (m.carriedOut i) := by
  have hagrees := m.agrees_traced i
  have hfault : i.fault? (m.traced i) = none := (hagrees.fault? (output_traced ..) i).trans h
  have heffect := Instruction.leaves_effect hfault
  rw [hagrees.pushedCells, hagrees.poppedCells] at heffect
  have hretired : Leaves [] [] [] (i.effect (m.traced i)) ((i.effect (m.traced i)).retired i) :=
    .silent rfl rfl
  have hall := (leaves_traced i m).trans
    ((heffect.then_silent hretired).then_silent (leaves_followed i (i.flow m)))
  rwa [List.append_nil] at hall

lemma tracing_serviced : m.serviced.tracing = m.tracing := by
  rw [serviced]
  cases m.dueLine? with
  | none => rfl
  | some line => exact tracing_dispatched line m

/-- A tick comes to the instruction at which it stands after the dispatch, if nothing has stopped
it before. -/
lemma executes?_eq (hphase : m.phase ≠ .halted) :
    m.executes? = if m.dispatchFault? = none ∧ m.entered.fetchFault? = none then
      m.entered.instruction? else none := by
  refine Option.ext fun i => ?_
  rw [executes?_eq_some_iff, perform_decode_eq_ok_iff]
  by_cases hready : m.dispatchFault? = none ∧ m.entered.fetchFault? = none
  · simp [hready, hphase]
  · rw [if_neg hready]
    simp only [reduceCtorEq, iff_false]
    exact fun h => hready ⟨h.2.1, h.2.2.1⟩

variable (m) in
/-- The line of the trace for the instruction that the next tick comes to, if it is recorded. -/
def nextDecodings : List (Nat × Instruction) :=
  if m.tracing then m.executes?.toList.map fun i => (m.entered.pc, i) else []

variable (m) in
/-- The cells that the next tick pops from. -/
def nextPops : List Nat :=
  m.executes?.elim [] fun i => i.poppedCells m.entered

lemma leaves_stepBroken {fault : Fault} (hphase : m.phase ≠ .halted)
    (h : m.stepFault? = some fault) :
    Leaves [] m.nextPops m.nextDecodings m.entered m.stepBroken := by
  have hnone : m.executes? = none → Leaves [] m.nextPops m.nextDecodings m.entered m.entered := by
    intro hexecutes
    rw [nextPops, nextDecodings, hexecutes]
    simp only [Option.elim_none, Option.toList_none, List.map_nil, ite_self]
    exact .silent rfl rfl
  have hexecutes := executes?_eq hphase
  rw [stepBroken]
  cases hdispatch : m.dispatchFault? with
  | some dispatchFault =>
    rw [if_neg (by simp [hdispatch])] at hexecutes
    rw [← entered_of_some hdispatch]
    exact hnone hexecutes
  | none =>
    have hentered := entered_of_none m hdispatch
    rw [hentered] at hexecutes
    cases hfetch : m.serviced.fetchFault? with
    | some fetchFault =>
      rw [if_neg (by simp [hfetch])] at hexecutes
      rw [← hentered]
      exact hnone hexecutes
    | none =>
      rw [if_pos ⟨hdispatch, hfetch⟩] at hexecutes
      cases hi : m.serviced.instruction? with
      | none =>
        rw [← hentered]
        exact hnone (hexecutes.trans hi)
      | some i =>
        have hagrees := m.serviced.agrees_traced i
        have hfault : i.fault? (m.serviced.traced i) = some fault := by
          rw [stepFault?, hdispatch, hfetch, Option.none_or, Option.none_or, instructionFault?,
            hi] at h
          exact (hagrees.fault? (output_traced ..) i).trans h
        have hbroken := Instruction.leaves_broken hfault
        rw [hagrees.poppedCells] at hbroken
        have hall := (leaves_traced i m.serviced).trans hbroken
        simp only [List.append_nil, List.nil_append, tracing_serviced] at hall
        rw [nextPops, nextDecodings, hexecutes, hi, hentered]
        exact hall

/-- What a tick records from its instruction on, and where this leaves memory. -/
lemma leaves_tick (hphase : m.phase ≠ .halted) :
    Leaves (if m.retires .call then cellsBelow m.entered.registers.stackPointer 1 else [])
      m.nextPops m.nextDecodings m.begun.entered (m.perform tick).2 := by
  have hbegun := m.agrees_begun
  cases m.outcome with
  | ignored hhalted htick => exact absurd hhalted hphase
  | retired i _ hretires htick =>
    have hagrees := agrees_entered_of_retires? hretires
    have hdispatch : m.begun.dispatchFault? = none := by
      rw [hbegun.dispatchFault?]
      exact (stepFault?_eq_none_iff.1 (retires?_eq_some_iff.1 hretires).2.1).1
    have hcarried := leaves_carriedOut (fault?_of_retires? hretires)
    rw [hagrees.pushedCells, hagrees.poppedCells, hagrees.pc, tracing_serviced,
      tracing_begun] at hcarried
    rw [retires, nextPops, nextDecodings, hretires, executes?_of_retires? hretires, htick,
      entered_of_none _ hdispatch]
    simp only [Option.any_some, decide_eq_true_eq]
    exact hcarried
  | faulted fault _ hretires htick =>
    have hphase' : m.begun.phase ≠ .halted := by
      rw [phase_begun hphase]
      decide
    have hfault : m.begun.stepFault? = some fault := by
      rw [stepFault?_begun]
      exact (tick_eq_error hphase htick).1
    have hbroken := leaves_stepBroken hphase' hfault
    have hpops : m.begun.nextPops = m.nextPops := by
      rw [nextPops, nextPops, executes?_begun hphase]
      simp only [hbegun.entered.poppedCells]
    have hdecodings : m.begun.nextDecodings = m.nextDecodings := by
      rw [nextDecodings, nextDecodings, executes?_begun hphase, hbegun.entered.pc, tracing_begun]
    rw [hpops, hdecodings] at hbroken
    rw [retires, hretires, htick]
    exact hbroken.then_silent (leaves_stop fault)

end Machine

end LS8
