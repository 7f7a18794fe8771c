import LS8.Proofs.Reached

/-!
# Two ways to fill a memory

`Ram.copyIn` looks once at the end of its range and then copies everything; `Ram.load` looks at each
address and stops at the first that does not exist.  The end of a range is a machine word that stays
at its greatest value where the sum would be greater, so a range that begins near that value seems
to be shorter than it is.  No memory is large enough for that to matter (`lt_rangeEnd`).

If the bytes fit, copying them does what single writes to one cell after the other do, and so does
loading them from address 0.  If they do not, both name the same address, but copying has changed
nothing while loading has filled the memory to its end.  `CopiesIn`, `LoadsAlike` and `BuildsAlike`
say this of a memory, of a program and of a simulator that is made for it; `filling_agrees` has all
three.
-/

namespace LS8

namespace Ram

variable {ram : Ram} {offset : Nat} {data program : List UInt8}

/-- Writes bytes to one cell after the other, up to the first write that is refused. -/
def writeEach (ram : Ram) (offset : Nat) (data : List UInt8) : Except Fault Ram :=
  (data.zipIdx offset).foldlM (fun written cell => written.write cell.2 cell.1) ram

/-! ## Bytes that fit -/

/-- The end of a range inside a memory is the sum. -/
lemma rangeEnd_of_le {length : Nat} (hcapacity : ram.size < 2 ^ 63)
    (h : offset + length ≤ ram.size) : rangeEnd offset length = offset + length := by
  rw [rangeEnd]
  omega

lemma writeEach_of_le (h : offset + data.length ≤ ram.size) :
    ram.writeEach offset data = .ok (ram.loadFrom offset data).1 := by
  induction data generalizing ram offset with
  | nil => rfl
  | cons v rest ih =>
    -- the first write is the first step of the loop, which goes on behind it
    rw [List.length_cons] at h
    have hlt : offset < ram.size := by omega
    have hwrite : ram.write offset v = .ok (ram.set offset v hlt) := dif_pos hlt
    have hstep : ram.writeEach offset (v :: rest) =
        (ram.write offset v).bind fun written => written.writeEach (offset + 1) rest := by
      rw [writeEach, List.zipIdx_cons, List.foldlM_cons]
      rfl
    rw [hstep, hwrite, loadFrom, dif_pos hlt]
    exact ih (by rw [size_set]; omega)

/-- A copy at once leaves the same cells as one byte after the other. -/
lemma copyIn_of_le (hcapacity : ram.size < 2 ^ 63) (h : offset + data.length ≤ ram.size) :
    ram.copyIn offset data = ((ram.loadFrom offset data).1, .ok ()) := by
  have hback : (ram.toList.drop (offset + data.length)).take
      (ram.size - (offset + data.length)) = ram.toList.drop (offset + data.length) := by
    refine List.take_of_length_le ?_
    rw [List.length_drop, length_toList]
  have hcells : (⟨ram.cells.extract 0 offset ++ data.toArray
      ++ ram.cells.extract (offset + data.length) ram.size⟩ : Ram).toList =
      ram.toList.take offset ++ data ++ ram.toList.drop (offset + data.length) := by
    simp only [toList, Array.toList_append, Array.toList_extract, List.extract, List.drop_zero,
      Nat.sub_zero] at hback ⊢
    rw [hback]
  have hall : data.take (ram.size - offset) = data := List.take_of_length_le (by omega)
  simp only [copyIn, rangeEnd_of_le hcapacity h]
  rw [if_neg (Nat.not_lt.2 h)]
  refine Prod.ext (ext_toList ?_) rfl
  rw [hcells, toList_loadFrom ram offset data (by omega), hall]

lemma writeSlice_of_le (hcapacity : ram.size < 2 ^ 63) (h : offset + data.length ≤ ram.size) :
    ram.writeSlice offset data = .ok (ram.loadFrom offset data).1 := by
  rw [writeSlice, copyIn_of_le hcapacity h]

/-! ## Bytes that do not fit -/

/-- The end of a range that leaves a memory is outside, even where it comes out too low. -/
lemma lt_rangeEnd {length : Nat} (hcapacity : ram.size < 2 ^ 63)
    (h : ram.size < offset + length) : ram.size < rangeEnd offset length := by
  rw [rangeEnd]
  omega

lemma copyIn_of_lt (hcapacity : ram.size < 2 ^ 63) (h : ram.size < offset + data.length) :
    ram.copyIn offset data =
      (ram, .error (.memoryOutOfBounds (max ram.size offset) ram.size)) :=
  if_pos (lt_rangeEnd hcapacity h)

lemma writeSlice_of_lt (hcapacity : ram.size < 2 ^ 63) (h : ram.size < offset + data.length) :
    ram.writeSlice offset data =
      .error (.memoryOutOfBounds (max ram.size offset) ram.size) := by
  rw [writeSlice, copyIn_of_lt hcapacity h]

/-! ## The two ways side by side -/

/-- Bytes are copied in as if they were written one by one, or not at all. -/
structure CopiesIn (ram : Ram) (offset : Nat) (data : List UInt8) : Prop where
  /-- They are copied if the sum that has no bound says that they fit. -/
  succeeds_iff : (ram.copyIn offset data).2 = .ok () ↔ offset + data.length ≤ ram.size
  oneByOne : (ram.copyIn offset data).2 = .ok () →
    ram.writeEach offset data = .ok (ram.copyIn offset data).1
  /-- If not, the memory is as it was. -/
  refusal : ∀ fault, (ram.copyIn offset data).2 = .error fault →
    fault = .memoryOutOfBounds (max ram.size offset) ram.size
      ∧ (ram.copyIn offset data).1 = ram

/-- A program is loaded as if it were copied in at address 0, except that it may be cut off. -/
structure LoadsAlike (ram : Ram) (program : List UInt8) : Prop where
  succeeds_iff : (∃ count, (ram.loadProgram program).2 = .ok count) ↔
    (ram.copyIn 0 program).2 = .ok ()
  /-- The program is counted, and the cells behind it are as they were. -/
  success : (ram.copyIn 0 program).2 = .ok () →
    ram.loadProgram program = ((ram.copyIn 0 program).1, .ok program.length)
      ∧ (ram.copyIn 0 program).1.toList = program ++ ram.toList.drop program.length
  /-- A program that is too long fills the memory before it is refused. -/
  tooLong : ram.size < program.length →
    (ram.copyIn 0 program).2 = .error (.memoryOutOfBounds ram.size ram.size)
      ∧ (ram.loadProgram program).2 = .error (.tooLong (.memoryOutOfBounds ram.size ram.size))
      ∧ (ram.loadProgram program).1.toList = program.take ram.size

lemma copiesIn (hcapacity : ram.size < 2 ^ 63) (offset : Nat) (data : List UInt8) :
    ram.CopiesIn offset data := by
  rcases Nat.lt_or_ge ram.size (offset + data.length) with hlong | hfits
  · have hcopy := copyIn_of_lt hcapacity hlong
    refine ⟨?_, ?_, ?_⟩
    · simp [hcopy, hlong]
    · simp [hcopy]
    · rintro fault hfault
      rw [hcopy] at hfault ⊢
      exact ⟨(Except.error.inj hfault).symm, rfl⟩
  · have hcopy := copyIn_of_le hcapacity hfits
    refine ⟨?_, ?_, ?_⟩
    · simp [hcopy, hfits]
    · rw [hcopy]
      exact fun _ => writeEach_of_le hfits
    · simp [hcopy]

lemma loadsAlike (hcapacity : ram.size < 2 ^ 63) (program : List UInt8) :
    ram.LoadsAlike program := by
  have hcells : (ram.load program).1.toList =
      program.take ram.size ++ ram.toList.drop program.length := by
    rw [load, toList_loadFrom ram 0 program (Nat.zero_le _), List.take_zero, List.nil_append,
      Nat.sub_zero, Nat.zero_add]
  rcases Nat.lt_or_ge ram.size program.length with hlong | hfits
  · have hcopy := @copyIn_of_lt ram 0 program hcapacity (by rwa [Nat.zero_add])
    have hload := loadProgram_of_lt hlong
    have hnone : ram.toList.drop program.length = [] :=
      List.drop_eq_nil_of_le (Nat.le_of_lt hlong)
    refine ⟨?_, ?_, fun _ => ⟨?_, ?_, ?_⟩⟩
    · simp [hcopy, hload]
    · simp [hcopy]
    · rw [hcopy, Nat.max_eq_left (Nat.zero_le _)]
    · rw [hload]
    · rw [hload, hcells, hnone, List.append_nil]
  · have hcopy : ram.copyIn 0 program = ((ram.load program).1, .ok ()) :=
      copyIn_of_le hcapacity (by rwa [Nat.zero_add])
    have hload := loadProgram_of_le hfits
    rw [List.take_of_length_le hfits] at hcells
    refine ⟨?_, fun _ => ⟨?_, ?_⟩, fun hlong => absurd hfits (Nat.not_le.2 hlong)⟩
    · simp [hcopy, hload]
    · rw [hcopy, hload]
    · rw [hcopy, hcells]

end Ram

/-- A simulator is loaded as if its program were copied into an empty memory first, but for the note
in its journal. -/
structure Simulator.BuildsAlike (program : List UInt8) (c : Config) (output : Output) : Prop where
  success : ∀ s, load program c output = .ok s ↔
    ∃ filled, (Ram.zeroed c.ramSize).writeSlice 0 program = .ok filled
      ∧ s = (ofRam filled c output).emit (.programLoaded program.length)
  failure : ∀ e, load program c output = .error e ↔
    ∃ fault, (Ram.zeroed c.ramSize).writeSlice 0 program = .error fault
      ∧ e = .load (.tooLong fault)

lemma Simulator.buildsAlike {c : Config} (hvalid : c.Valid) (program : List UInt8)
    (output : Output) : BuildsAlike program c output := by
  have hsize := Ram.size_zeroed c.ramSize
  have hcapacity : (Ram.zeroed c.ramSize).size < 2 ^ 63 := by
    have hle : c.ramSize ≤ 256 := hvalid.2.1
    omega
  rcases Nat.lt_or_ge c.ramSize program.length with hlong | hfits
  · have hslice := @Ram.writeSlice_of_lt _ 0 program hcapacity (by omega)
    rw [Nat.max_eq_left (Nat.zero_le _), hsize] at hslice
    have hload := load_of_lt output hvalid hlong
    refine ⟨?_, ?_⟩
    · simp [hload, hslice]
    · simp [hload, hslice, eq_comm]
  · have hslice : (Ram.zeroed c.ramSize).writeSlice 0 program =
        .ok ((Ram.zeroed c.ramSize).load program).1 :=
      Ram.writeSlice_of_le hcapacity (by omega)
    have hload : load program c output =
        .ok ((ofRam ((Ram.zeroed c.ramSize).load program).1 c output).emit
          (.programLoaded program.length)) := by
      rw [load, (Config.validate_eq_ok_iff c).2 hvalid, Ram.loadProgram_of_le (by omega)]
    refine ⟨?_, ?_⟩
    · simp [hload, hslice, eq_comm]
    · simp [hload, hslice]

/-- **The two ways to fill a memory agree.**  Whatever range of whatever memory they are copied to,
bytes are copied exactly if they fit, and then as single writes would do it.  A program is loaded
exactly if it can be copied to address 0, into the same cells, and refused with the same fault.  So
a simulator is loaded under a valid configuration exactly if the program can be copied into a new
memory, and it is the one that is built over this memory. -/
theorem filling_agrees {ram : Ram} (hcapacity : ram.size < 2 ^ 63) {c : Config} (hvalid : c.Valid)
    (program : List UInt8) (output : Output) :
    (∀ offset data, ram.CopiesIn offset data) ∧ ram.LoadsAlike program
      ∧ Simulator.BuildsAlike program c output :=
  ⟨Ram.copiesIn hcapacity, Ram.loadsAlike hcapacity program,
    Simulator.buildsAlike hvalid program output⟩

/-- Four cells, each with something in it. -/
def fourCells : Ram :=
  ⟨#[1, 2, 3, 4]⟩

/-- The settings of a machine with as many. -/
def fourCellConfig : Config where
  ramSize := 4
  stackTop := 3

/-- Two bytes fit into the last two cells.  At the greatest address, where a range has no end that
could be counted, they are refused.  Five bytes are cut off by loading and refused by copying. -/
theorem filling_agrees_fourCells :
    fourCells.size < 2 ^ 63 ∧ fourCellConfig.Valid
      ∧ fourCells.writeEach 2 [9, 8] = .ok (fourCells.copyIn 2 [9, 8]).1
      ∧ (∀ fault, (fourCells.copyIn 0xFFFFFFFFFFFFFFFF [9, 8]).2 = .error fault →
          fault = .memoryOutOfBounds 0xFFFFFFFFFFFFFFFF 4)
      ∧ (fourCells.copyIn 0xFFFFFFFFFFFFFFFF [9, 8]).2 ≠ .ok ()
      ∧ (fourCells.loadProgram [9, 8, 7, 6, 5]).1.toList = [9, 8, 7, 6]
      ∧ (fourCells.copyIn 0 [9, 8, 7, 6, 5]).1 = fourCells
      ∧ ∃ fault, Simulator.load [9, 8, 7, 6, 5] fourCellConfig .unlimited =
          .error (.load (.tooLong fault)) := by
  have hcapacity : fourCells.size < 2 ^ 63 := by decide
  have hvalid : fourCellConfig.Valid := (Config.validate_eq_ok_iff _).1 rfl
  obtain ⟨hcopies, hloads, hbuilds⟩ :=
    filling_agrees hcapacity hvalid [9, 8, 7, 6, 5] .unlimited
  obtain ⟨hcopyFault, -, hfilled⟩ := hloads.tooLong (by decide)
  have hrefused : (fourCells.copyIn 0xFFFFFFFFFFFFFFFF [9, 8]).2 ≠ .ok () := by
    rw [ne_eq, (hcopies _ _).succeeds_iff]
    decide
  refine ⟨hcapacity, hvalid, (hcopies 2 [9, 8]).oneByOne ?_, ?_, hrefused, hfilled,
    ((hcopies 0 _).refusal _ hcopyFault).2, _, (hbuilds.failure _).2 ⟨_, rfl, rfl⟩⟩
  · exact (hcopies 2 [9, 8]).succeeds_iff.2 (by decide)
  · exact fun fault hfault => ((hcopies _ _).refusal fault hfault).1

end LS8
