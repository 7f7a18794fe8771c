import LS8.Machine.Report
import LS8.Proofs.Run

/-!
# Arithmetic that has to fit

The machine computes addresses with natural numbers, shifts a byte by any number of places and
knows its registers by name.  A processor has words of a fixed width, and where a sum does not fit
in one, a bit is shifted out of its byte or a number names no register, there is no meaningful way
to go on.

This file has the tick and the instruction of the state report once more with all of that checked:
a `Checked` action ends, without any fault, at the first computation that does not fit.  Everything
else is left to the actions of the machine.  `tick_fits` and `instructionText_fits` say that the
checks make no difference as long as the program counter and the memory are small enough.
-/

namespace LS8.Machine

/-- An action that may come to a point where it has no meaning.  There it ends in no fault. -/
abbrev Checked (α : Type) : Type := EStateM (Option Fault) Machine α

namespace Checked

variable {α β : Type}

/-- An action of the machine, which has a meaning everywhere. -/
def plain (y : Action α) : Checked α := fun m =>
  match y m with
  | .ok a m' => .ok a m'
  | .error fault m' => .error (some fault) m'

instance : MonadLift Action Checked := ⟨plain⟩

/-! ## Computations that have to fit -/

/-- The sum of two addresses, in a machine whose greatest word is `word`. -/
def sum (word x y : Nat) : Checked Nat :=
  if x + y ≤ word then pure (x + y) else throw none

/-- The byte with the bit at a place set. -/
def bit (place : Nat) : Checked UInt8 :=
  if place < 8 then pure (UInt8.ofNat (1 <<< place)) else throw none

/-- The byte that is a number. -/
def byte (n : Nat) : Checked UInt8 :=
  if n < 256 then pure (UInt8.ofNat n) else throw none

/-- The contents of the register with a number. -/
def registerAt (n : Nat) : Checked UInt8 := do
  match (← get).registers.get? n with
  | some v => pure v
  | none => throw none

/-- Stores a byte in the register with a number. -/
def setRegisterAt (n : Nat) (v : UInt8) : Checked Unit := do
  let m ← get
  match m.registers.set? n v with
  | some registers => set { m with registers := registers }
  | none => throw none

/-! ## The tick -/

section

variable (word : Nat)

/-- Enters the handler of a line. -/
def dispatch (line : Nat) : Checked Unit := do
  let status ← registerAt 6
  setRegisterAt 6 (status &&& ~~~(← bit line))
  setInterrupts false
  let m ← get
  let saved ← (List.range 7).mapM registerAt
  pushAll (UInt8.ofNat m.pc :: m.flags.bits :: saved)
  let vector ← readCell (← sum word vectorBase line)
  emit (.interruptDispatched line (UInt8.ofNat m.pc) vector)
  setPc vector.toNat
  count fun s => { s with interruptsServiced := s.interruptsServiced + 1 }

/-- Dispatches the line that is due, if there is one. -/
def serviceInterrupts : Checked Unit := do
  if (← get).interruptsEnabled then
    let mask ← registerAt 5
    let status ← registerAt 6
    match lowestLine? (mask &&& status) with
    | some line => dispatch word line
    | none => pure ()

/-- Marks the line whose number is in a register as pending. -/
def raiseInterrupt (b : UInt8) : Checked Flow := do
  let number ← readRegister (← operand b)
  if number.toNat < interruptLines then
    let status ← registerAt 6
    let raised := status ||| (← bit number.toNat)
    setRegisterAt 6 raised
    emit (.interruptRaised number raised)
    return .next
  else
    faultAtPc (.invalidInterrupt number)

/-- Pops into the registers with some numbers one after the other. -/
def popIntoNumbered : List Nat → Checked Unit
  | [] => pure ()
  | n :: rest => do
    setRegisterAt n (← pop)
    popIntoNumbered rest

/-- Leaves a handler. -/
def returnFromInterrupt : Checked Flow := do
  popIntoNumbered (List.range 7).reverse
  setFlags (Flags.ofBits (← pop))
  let ret ← pop
  setInterrupts true
  return .jump ret.toNat

/-- Pushes the address of the following instruction, which has to be a byte, and goes on at the
address in a register. -/
def call (a : UInt8) : Checked Flow := do
  let target ← readOperand a
  let ret ← sum word (← get).pc Opcode.call.length
  push (← byte ret)
  return .jump target.toNat

/-- Executes an instruction that stands at the program counter. -/
def execute (i : Instruction) : Checked Flow :=
  match i.opcode with
  | .iret => returnFromInterrupt
  | .call => call word i.a
  | .int => raiseInterrupt i.a
  | _ => Machine.execute i

/-- The three bytes from the program counter on. -/
def fetch : Checked (UInt8 × UInt8 × UInt8) := do
  let pc := (← get).pc
  let ir ← readCell pc
  let a ← readCell (← sum word pc 1)
  let b ← readCell (← sum word pc 2)
  return (ir, a, b)

/-- The instruction at the program counter, recorded if the machine is tracing. -/
def decode : Checked Instruction := do
  let (ir, a, b) ← fetch word
  match Instruction.decode? ir a b with
  | none => faultAtPc (.unknownOpcode ir)
  | some i =>
    let m ← get
    if m.tracing then
      emit (.decoded m.pc i)
    return i

/-- Follows the flow of an instruction that has been executed. -/
def follow (i : Instruction) : Flow → Checked Unit
  | .next => do
    let next ← sum word (← get).pc i.length
    setPc next
  | flow => Machine.follow i flow

/-- Dispatches an interrupt if one is due and carries out one instruction. -/
def step : Checked Unit := do
  serviceInterrupts word
  let i ← decode word
  let flow ← execute word i
  count fun s => s.retire i.opcode.instructionClass
  follow word i flow

/-- Carries out an action and halts the machine if it ends in a fault. -/
def haltOnFault (x : Checked Unit) : Checked Unit := fun m =>
  match x m with
  | .error (some fault) m' => .error (some fault) (m'.stop fault)
  | other => other

/-- One tick of the clock. -/
def tick : Checked Unit := do
  if !(← get).isHalted then
    start
    count fun s => { s with ticks := s.ticks + 1 }
    haltOnFault (step word)

/-- The instruction of the state report: the part of memory from the program counter up to three
cells further. -/
def instructionText : Checked String := do
  let m ← get
  let stop := min (← sum word m.pc 3) m.ram.size
  if m.pc ≤ stop then
    return disassemble ((m.ram.toList.take stop).drop m.pc)
  else
    return "<out of range>"

end

/-! ## Where everything fits -/

variable {m m' : Machine}

/-- Everything in a checked action fits when a machine performs it, and it does what a plain action
does. -/
def Fits (x : Checked α) (y : Action α) (m : Machine) : Prop :=
  x m = plain y m

lemma bind_apply (x : Checked α) (f : α → Checked β) (m : Machine) :
    (x >>= f) m = match x m with
      | .ok a m' => f a m'
      | .error fault? m' => .error fault? m' := by
  show EStateM.bind x f m = _
  unfold EStateM.bind
  cases x m <;> rfl

lemma bind_of_ok {x : Checked α} {a : α} (f : α → Checked β) (h : x m = .ok a m') :
    (x >>= f) m = f a m' := by
  rw [bind_apply, h]

@[simp] lemma get_bind_apply (f : Machine → Checked β) (m : Machine) :
    ((get : Checked Machine) >>= f) m = f m m := rfl

namespace Fits

/-- Everything in two actions one after the other fits if it fits in the first and then, with its
answer and on the machine that it leaves behind, in the second. -/
lemma bind {x : Checked α} {y : Action α} {f : α → Checked β} {g : α → Action β}
    (hx : Fits x y m) (hf : ∀ a m', y m = .ok a m' → Fits (f a) (g a) m') :
    Fits (x >>= f) (y >>= g) m := by
  unfold Fits at *
  rw [bind_apply, hx, plain, plain, Machine.bind_apply]
  cases hy : y m with
  | error fault m' => rfl
  | ok a m' => exact hf a m' hy

/-- A plain action with something after it. -/
lemma plain_bind {y : Action α} {f : α → Checked β} {g : α → Action β}
    (hf : ∀ a m', Fits (f a) (g a) m') : Fits (liftM y >>= f) (y >>= g) m :=
  bind rfl fun a m' _ => hf a m'

/-- Two actions that begin by looking at the machine. -/
lemma get_bind {f : Machine → Checked β} {g : Machine → Action β} (hf : Fits (f m) (g m) m) :
    Fits (get >>= f) (get >>= g) m :=
  hf

/-- A checked action that begins with a computation that fits. -/
lemma of_bind {x : Checked α} {a : α} {f : α → Checked β} {y : Action β}
    (hx : x m = .ok a m) (hf : Fits (f a) y m) : Fits (x >>= f) y m := by
  unfold Fits at *
  rw [bind_of_ok f hx, hf]

end Fits

lemma sum_apply {word x y : Nat} (h : x + y ≤ word) (m : Machine) :
    sum word x y m = .ok (x + y) m := by
  rw [sum, if_pos h]
  rfl

lemma bit_apply {place : Nat} (h : place < interruptLines) (m : Machine) :
    bit place m = .ok (lineBit place) m := by
  have hplace : place < 8 := h
  have hbit : UInt8.ofNat (1 <<< place) = lineBit place := by
    rw [← toNat_lineBit h, UInt8.ofNat_toNat]
  rw [bit, if_pos hplace, hbit]
  rfl

lemma byte_apply {n : Nat} (h : n < 256) (m : Machine) :
    byte n m = .ok (UInt8.ofNat n) m := by
  rw [byte, if_pos h]
  rfl

lemma registerAt_apply (r : Register) (m : Machine) :
    registerAt r.val m = .ok (m.registers.read r) m := by
  have hget : m.registers.get? r.val = some (m.registers.read r) := by
    simp [Registers.get?, Registers.read]
  show (match m.registers.get? r.val with
    | some v => (Pure.pure v : Checked UInt8)
    | none => throw none) m = _
  rw [hget]
  rfl

lemma setRegisterAt_apply (r : Register) (v : UInt8) (m : Machine) :
    setRegisterAt r.val v m = .ok () { m with registers := m.registers.write r v } := by
  have hset : m.registers.set? r.val v = some (m.registers.write r v) := dif_pos r.isLt
  show (match m.registers.set? r.val v with
    | some registers => (set { m with registers := registers } : Checked Unit)
    | none => throw none) m = _
  rw [hset]
  rfl

lemma registerAt_fits (r : Register) (m : Machine) :
    Fits (registerAt r.val) (readRegister r) m :=
  registerAt_apply r m

lemma setRegisterAt_fits (r : Register) (v : UInt8) (m : Machine) :
    Fits (setRegisterAt r.val v) (writeRegister r v) m :=
  setRegisterAt_apply r v m

/-- The registers that a dispatch saves, read by their numbers. -/
lemma mapM_registerAt_apply (rs : List Register) (m : Machine) :
    (rs.map Fin.val).mapM registerAt m = .ok (rs.map m.registers.read) m := by
  induction rs with
  | nil => rfl
  | cons r rest ih =>
    rw [List.map_cons, List.mapM_cons, bind_of_ok _ (registerAt_apply r m), bind_of_ok _ ih]
    rfl

/-! ## Interrupts -/

lemma range_seven : List.range 7 = savedRegisters.map Fin.val := by decide

lemma dispatch_fits {word line : Nat} (hline : line < interruptLines) (hword : 255 ≤ word)
    (m : Machine) : Fits (dispatch word line) (Machine.dispatch line) m := by
  have hvector : vectorBase + line ≤ word := by
    have htop : vectorBase + 7 = 255 := rfl
    have hlines : interruptLines = 8 := rfl
    omega
  have hstatus : registerAt 6 m = .ok (m.registers.read .status) m := registerAt_apply .status m
  have hclear : ∀ v, setRegisterAt 6 v m =
      .ok () { m with registers := m.registers.write .status v } :=
    fun v => setRegisterAt_apply .status v m
  have hsaved := mapM_registerAt_apply savedRegisters (m.acknowledged line)
  rw [← range_seven] at hsaved
  have hdisable : (liftM (setInterrupts false) : Checked Unit)
      { m with
        registers := m.registers.write .status
          (m.registers.read .status &&& ~~~lineBit line) } = .ok () (m.acknowledged line) := rfl
  have hplain : plain (Machine.dispatch line) m = plain (do
      pushAll (m.acknowledged line).frame
      let vector ← readCell (vectorBase + line)
      emit (.interruptDispatched line (UInt8.ofNat m.pc) vector)
      setPc vector.toNat
      count fun s => { s with interruptsServiced := s.interruptsServiced + 1 } : Action Unit)
        (m.acknowledged line) := rfl
  unfold Fits
  rw [dispatch, hplain, bind_of_ok _ hstatus, bind_of_ok _ (bit_apply hline m),
    bind_of_ok _ (hclear _)]
  rw [bind_of_ok _ hdisable, get_bind_apply, bind_of_ok _ hsaved]
  refine Fits.plain_bind fun _ m₁ => ?_
  refine Fits.of_bind (sum_apply hvector m₁) ?_
  exact Fits.plain_bind fun vector m₂ => Fits.plain_bind fun _ m₃ => Fits.plain_bind fun _ m₄ =>
    rfl

lemma serviceInterrupts_fits {word : Nat} (hword : 255 ≤ word) (m : Machine) :
    Fits (serviceInterrupts word) Machine.serviceInterrupts m := by
  have hmask : registerAt 5 m = .ok (m.registers.read .mask) m := registerAt_apply .mask m
  have hstatus : registerAt 6 m = .ok (m.registers.read .status) m := registerAt_apply .status m
  have hplain : plain Machine.serviceInterrupts m = plain (match m.dueLine? with
      | some line => Machine.dispatch line
      | none => pure () : Action Unit) m := rfl
  unfold Fits
  rw [hplain, dueLine?, serviceInterrupts, get_bind_apply]
  by_cases henabled : m.interruptsEnabled = true
  · rw [if_pos henabled, if_pos henabled, bind_of_ok _ hmask, bind_of_ok _ hstatus,
      ← Registers.pending]
    cases hline : lowestLine? m.registers.pending with
    | none => rfl
    | some line => exact dispatch_fits (lowestLine?_eq_some_iff.1 hline).lt hword m
  · rw [if_neg henabled, if_neg henabled]
    rfl

lemma raiseInterrupt_fits (b : UInt8) (m : Machine) :
    Fits (raiseInterrupt b) (Machine.raiseInterrupt b) m := by
  refine Fits.plain_bind fun r m₁ => Fits.plain_bind fun number m₂ => ?_
  by_cases hnumber : number.toNat < interruptLines
  · rw [if_pos hnumber, if_pos hnumber]
    refine Fits.bind (registerAt_fits .status m₂) fun status m₃ _ => ?_
    refine Fits.of_bind (bit_apply hnumber m₃) ?_
    refine Fits.bind (setRegisterAt_fits .status _ m₃) fun _ m₄ _ => ?_
    exact Fits.plain_bind fun _ m₅ => rfl
  · rw [if_neg hnumber, if_neg hnumber]
    rfl

lemma popIntoNumbered_fits (rs : List Register) (m : Machine) :
    Fits (popIntoNumbered (rs.map Fin.val)) (popInto rs) m := by
  induction rs generalizing m with
  | nil => rfl
  | cons r rest ih =>
    refine Fits.plain_bind fun v m₁ => ?_
    exact Fits.bind (setRegisterAt_fits r v m₁) fun _ m₂ _ => ih m₂

lemma returnFromInterrupt_fits (m : Machine) :
    Fits returnFromInterrupt Machine.returnFromInterrupt m := by
  have hnumbers : (List.range 7).reverse = savedRegisters.reverse.map Fin.val := by decide
  rw [returnFromInterrupt, hnumbers]
  refine Fits.bind (popIntoNumbered_fits _ m) fun _ m₁ _ => ?_
  exact Fits.plain_bind fun _ m₂ => Fits.plain_bind fun _ m₃ => Fits.plain_bind fun _ m₄ =>
    Fits.plain_bind fun _ m₅ => rfl

/-! ## Instructions -/

section

variable {word : Nat}

lemma call_fits (hpc : m.pc + 2 < 256) (hword : 255 ≤ word) (a : UInt8) :
    Fits (call word a) (Machine.call a) m := by
  have hsame : ∀ target m₁, readOperand a m = .ok target m₁ → m₁ = m := by
    intro target m₁ hok
    by_cases ha : a.toNat < registerCount
    · rw [readOperand_of_lt m ha] at hok
      cases hok
      rfl
    · rw [readOperand_of_le m (Nat.le_of_not_lt ha)] at hok
      cases hok
  have hlength : Opcode.call.length = 2 := rfl
  refine Fits.bind rfl fun target m₁ hok => ?_
  obtain rfl := hsame target m₁ hok
  refine Fits.get_bind ?_
  refine Fits.of_bind (sum_apply (by omega) m₁) ?_
  refine Fits.of_bind (byte_apply (by omega) m₁) ?_
  exact Fits.plain_bind fun _ m₂ => rfl

lemma execute_fits (hpc : m.pc + 2 < 256) (hword : 255 ≤ word) (i : Instruction) :
    Fits (execute word i) (Machine.execute i) m := by
  obtain ⟨op, a, b⟩ := i
  cases op with
  | iret => exact returnFromInterrupt_fits m
  | call => exact call_fits hpc hword a
  | int => exact raiseInterrupt_fits a m
  | _ => rfl

lemma fetch_fits (h : m.pc + 2 ≤ word) : Fits (fetch word) Machine.fetch m := by
  have hsame : ∀ address v m₁, readCell address m = .ok v m₁ → m₁ = m := by
    intro address v m₁ hok
    rw [readCell_apply] at hok
    split at hok
    · cases hok
      rfl
    · cases hok
  refine Fits.get_bind ?_
  refine Fits.bind rfl fun ir m₁ hir => ?_
  obtain rfl := hsame _ _ _ hir
  refine Fits.of_bind (sum_apply (by omega) _) ?_
  refine Fits.bind rfl fun a m₂ ha => ?_
  obtain rfl := hsame _ _ _ ha
  refine Fits.of_bind (sum_apply h _) ?_
  exact Fits.plain_bind fun b m₃ => rfl

lemma decode_fits (h : m.pc + 2 ≤ word) : Fits (decode word) Machine.decode m := by
  refine Fits.bind (fetch_fits h) fun bytes m₁ _ => ?_
  obtain ⟨ir, a, b⟩ := bytes
  show Fits (match Instruction.decode? ir a b with
    | none => _
    | some i => _) (match Instruction.decode? ir a b with
    | none => _
    | some i => _) m₁
  cases Instruction.decode? ir a b with
  | none => rfl
  | some i =>
    refine Fits.get_bind ?_
    by_cases htracing : m₁.tracing = true
    · rw [if_pos htracing, if_pos htracing]
      exact Fits.plain_bind fun _ m₂ => rfl
    · rw [if_neg htracing, if_neg htracing]
      rfl

lemma follow_fits (h : m.pc + 3 ≤ word) (i : Instruction) (flow : Flow) :
    Fits (follow word i flow) (Machine.follow i flow) m := by
  cases flow with
  | next =>
    have hlength : i.length ≤ 3 := i.opcode.length_le_three
    refine Fits.get_bind ?_
    exact Fits.of_bind (sum_apply (by omega) m) rfl
  | jump target => rfl
  | halt => rfl

lemma decode_eq_ok {i : Instruction} (h : Machine.decode m = .ok i m') :
    m.pc + 2 < m.ram.size ∧ m' = m.traced i := by
  rw [decode_apply, fetchFault?] at h
  by_cases hfetch : m.pc + 2 < m.ram.size
  · rw [if_pos hfetch] at h
    cases hi : m.instruction? with
    | none =>
      rw [hi] at h
      cases h
    | some j =>
      rw [hi] at h
      cases h
      exact ⟨hfetch, rfl⟩
  · rw [if_neg hfetch] at h
    cases h

lemma step_fits (hpc : m.pc + 3 ≤ word) (hsize : m.ram.size ≤ 256) (hword : 258 ≤ word) :
    Fits (step word) Machine.step m := by
  refine Fits.bind (serviceInterrupts_fits (by omega) m) fun _ m₁ hservice => ?_
  rw [serviceInterrupts_apply] at hservice
  split at hservice
  case h_2 => cases hservice
  cases hservice
  have hle := m.pc_serviced_le
  refine Fits.bind (decode_fits (by omega)) fun i m₂ hdecode => ?_
  obtain ⟨hfetch, rfl⟩ := decode_eq_ok hdecode
  rw [size_ram_serviced] at hfetch
  have hpc₂ : (m.serviced.traced i).pc = m.serviced.pc := (m.serviced.agrees_traced i).pc
  refine Fits.bind (execute_fits (by omega) (by omega) i) fun flow m₃ hexecute => ?_
  have hpc₃ : m₃.pc = m.serviced.pc := by
    rw [execute_apply] at hexecute
    split at hexecute
    · cases hexecute
      rw [Instruction.pc_effect, hpc₂]
    · cases hexecute
  refine Fits.bind rfl fun _ m₄ hcount => ?_
  rw [count_apply] at hcount
  cases hcount
  refine follow_fits ?_ i flow
  show m₃.pc + 3 ≤ word
  omega

lemma haltOnFault_fits {x : Checked Unit} {y : Action Unit} (h : Fits x y m) :
    Fits (haltOnFault x) (Machine.haltOnFault y) m := by
  unfold Fits at *
  rw [haltOnFault, plain, Machine.haltOnFault, h, plain]
  cases y m <;> rfl

/-- A tick has a meaning where the program counter, at most three cells further on, is a word. -/
lemma tick_fits (hpc : m.pc + 3 ≤ word) (hsize : m.ram.size ≤ 256) (hword : 258 ≤ word) :
    Fits (tick word) Machine.tick m := by
  have hbegun := m.agrees_begun
  refine Fits.get_bind ?_
  by_cases hhalted : m.isHalted = true
  · rw [hhalted]
    rfl
  · rw [Bool.eq_false_of_not_eq_true hhalted]
    refine Fits.bind rfl fun _ m₁ hstart => ?_
    rw [start_apply] at hstart
    cases hstart
    refine Fits.bind rfl fun _ m₂ hcount => ?_
    rw [count_apply, statistics_started] at hcount
    cases hcount
    have hstep : Fits (step word) Machine.step m.begun :=
      step_fits (by rw [hbegun.pc]; exact hpc) (by rw [hbegun.ram]; exact hsize) hword
    exact haltOnFault_fits hstep

lemma instructionText_fits (hpc : m.pc + 3 ≤ word) :
    Fits (instructionText word) (pure m.instructionText) m := by
  have hlength : m.ram.toList.length = m.ram.size := rfl
  refine Fits.of_bind (a := m) rfl (Fits.of_bind (sum_apply hpc m) ?_)
  rw [Machine.instructionText, Ram.window]
  by_cases hwithin : m.pc ≤ m.ram.size
  · have hstop : m.pc ≤ min (m.pc + 3) m.ram.size := by omega
    have hwindow : (m.ram.toList.take (min (m.pc + 3) m.ram.size)).drop m.pc =
        (m.ram.toList.drop m.pc).take 3 := by
      rw [List.drop_take, List.take_eq_take_iff, List.length_drop, hlength]
      omega
    rw [if_pos hwithin, if_pos hstop, hwindow]
    rfl
  · have hstop : ¬ m.pc ≤ min (m.pc + 3) m.ram.size := by omega
    rw [if_neg hwithin, if_neg hstop]
    rfl

end

end Checked

end LS8.Machine
