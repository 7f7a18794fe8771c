import LS8.Machine.Basic
import LS8.Proofs.Memory

/-!
# Actions as functions of a machine

An action answers or faults and leaves a machine behind either way.  This file says, for every
action on one part of the state, what it answers and what it leaves behind: each `_apply` lemma
is the complete effect of one action, so that nothing later unfolds an action again.
-/

namespace LS8.Machine

variable {α β : Type}

/-! ## Sequencing -/

lemma bind_apply (x : Action α) (f : α → Action β) (m : Machine) :
    (x >>= f) m = match x m with
      | .ok a m' => f a m'
      | .error fault m' => .error fault m' := by
  show EStateM.bind x f m = _
  unfold EStateM.bind
  cases x m <;> rfl

lemma bind_of_ok {x : Action α} {m m' : Machine} {a : α} (f : α → Action β)
    (h : x m = .ok a m') : (x >>= f) m = f a m' := by
  rw [bind_apply, h]

lemma bind_of_error {x : Action α} {m m' : Machine} {fault : Fault} (f : α → Action β)
    (h : x m = .error fault m') : (x >>= f) m = .error fault m' := by
  rw [bind_apply, h]

@[simp] lemma get_bind_apply (f : Machine → Action β) (m : Machine) :
    ((get : Action Machine) >>= f) m = f m m := rfl

lemma perform_of_ok {x : Action α} {m m' : Machine} {a : α} (h : x m = .ok a m') :
    m.perform x = (.ok a, m') := by
  rw [perform, h]

lemma perform_eq_ok_iff {x : Action α} {m m' : Machine} {a : α} :
    m.perform x = (.ok a, m') ↔ x m = .ok a m' := by
  unfold perform
  cases x m <;> simp

/-! ## Actions on one part of the state -/

@[simp] lemma emit_apply (e : Event) (m : Machine) :
    emit e m = .ok () { m with journal := m.journal.push e } := rfl

@[simp] lemma faultAtPc_apply (fault : Nat → Fault) (m : Machine) :
    (faultAtPc fault : Action α) m = .error (fault m.pc) m := rfl

lemma readCell_apply (address : Nat) (m : Machine) :
    readCell address m = if address < m.ram.size then .ok (m.ram.byte address) m
      else .error (.memoryOutOfBounds address m.ram.size) m := by
  rw [readCell, get_bind_apply, Ram.read_eq]
  by_cases h : address < m.ram.size
  · rw [if_pos h, if_pos h]
    rfl
  · rw [if_neg h, if_neg h]
    rfl

lemma writeCell_apply (address : Nat) (v : UInt8) (m : Machine) :
    writeCell address v m =
      if address < m.ram.size then .ok () { m with ram := m.ram.store address v }
      else .error (.memoryOutOfBounds address m.ram.size) m := by
  rw [writeCell, get_bind_apply, Ram.write_eq]
  by_cases h : address < m.ram.size
  · rw [if_pos h, if_pos h]
    rfl
  · rw [if_neg h, if_neg h]
    rfl

@[simp] lemma readRegister_apply (r : Register) (m : Machine) :
    readRegister r m = .ok (m.registers.read r) m := rfl

@[simp] lemma writeRegister_apply (r : Register) (v : UInt8) (m : Machine) :
    writeRegister r v m = .ok () { m with registers := m.registers.write r v } := rfl

@[simp] lemma setFlags_apply (f : Flags) (m : Machine) :
    setFlags f m = .ok () { m with flags := f } := rfl

@[simp] lemma setPc_apply (address : Nat) (m : Machine) :
    setPc address m = .ok () { m with pc := address } := rfl

@[simp] lemma setPhase_apply (phase : Phase) (m : Machine) :
    setPhase phase m = .ok () { m with phase := phase } := rfl

@[simp] lemma setInterrupts_apply (enabled : Bool) (m : Machine) :
    setInterrupts enabled m = .ok () { m with interruptsEnabled := enabled } := rfl

@[simp] lemma count_apply (f : Statistics → Statistics) (m : Machine) :
    count f m = .ok () { m with statistics := f m.statistics } := rfl

lemma print_apply (v : UInt8) (m : Machine) :
    print v m = .ok (m.output.print v).2 { m with output := (m.output.print v).1 } := rfl

lemma operand_apply (b : UInt8) (m : Machine) :
    operand b m = match Register.ofByte? b with
      | some r => .ok r m
      | none => .error (.invalidRegister b m.pc) m := by
  unfold operand
  cases Register.ofByte? b <;> rfl

end LS8.Machine
