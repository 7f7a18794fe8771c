import LS8.Config.Read
import LS8.Proofs.JsonReader
import Mathlib.Data.List.Nodup
import Mathlib.Data.List.Perm.Basic

/-!
# Configuration text

A configuration text overrides the defaults in part.  `Overrides` is a choice of values for any of
the six settings.  A `Document` is one way to write them down: a list of sections, each a list of
settings of that section, where nothing keeps a section or a setting from coming twice.  The text
itself is any layout of the tokens of the document, read by any reader that keeps to the rules.

Defaults come in at two places.  A section that is written starts from the defaults of its settings
(`Section.leftOut`), and one that is not written is the default of its type.  Since the two are the
same (`leftOut_eq`), a document sets its settings one after the other, whatever sections they stand
in (`parse_document`).  Settings of different names touch different parts of a configuration, so
their order does not matter (`foldl_applyAny_eq`), and what is read is the default configuration
with exactly the chosen settings replaced, if it passes the check (`ofText_document`).
-/

namespace LS8

namespace Config

/-! ## Documents -/

/-- The sections of a configuration. -/
inductive Section where
  /-- The run as a whole. -/
  | general
  /-- The geometry of memory. -/
  | memory
  /-- The pace of the clock. -/
  | clock
  deriving DecidableEq

namespace Section

/-- The key of a section. -/
def name : Section → String
  | .general => "general"
  | .memory => "memory"
  | .clock => "clock"

/-- The type of a section. -/
@[reducible] def Record : Section → Type
  | .general => GeneralConfig
  | .memory => MemoryConfig
  | .clock => ClockConfig

/-- The settings of a section. -/
def fields (r : Json.Reader) : (part : Section) → List (Json.Field part.Record)
  | .general => GeneralConfig.fields r
  | .memory => MemoryConfig.fields r
  | .clock => ClockConfig.fields r

/-- The section when it is there without a setting. -/
def leftOut : (part : Section) → part.Record
  | .general => GeneralConfig.leftOut
  | .memory => MemoryConfig.leftOut
  | .clock => ClockConfig.leftOut

/-- The section of a configuration. -/
def get : (part : Section) → Config → part.Record
  | .general, c => c.toGeneralConfig
  | .memory, c => c.toMemoryConfig
  | .clock, c => c.toClockConfig

/-- Replaces a section of a configuration. -/
def put : (part : Section) → part.Record → Config → Config
  | .general, record, c => { c with toGeneralConfig := record }
  | .memory, record, c => { c with toMemoryConfig := record }
  | .clock, record, c => { c with toClockConfig := record }

variable (part : Section)

lemma get_put (record : part.Record) (c : Config) : part.get (part.put record c) = record := by
  cases part <;> rfl

lemma put_get (c : Config) : part.put (part.get c) c = c := by
  cases part <;> rfl

lemma put_put (record other : part.Record) (c : Config) :
    part.put other (part.put record c) = part.put other c := by
  cases part <;> rfl

lemma get_put_of_ne {part other : Section} (h : other ≠ part) (record : part.Record)
    (c : Config) : other.get (part.put record c) = other.get c := by
  cases part <;> cases other <;> first | rfl | exact absurd rfl h

/-- A section that is there without a setting is the same as one that is not there. -/
lemma leftOut_eq : part.leftOut = part.get Config.leftOut := by
  cases part <;> rfl

end Section

/-- A setting of a section with a value of its type. -/
inductive Setting : Section → Type where
  /-- Whether instructions are recorded. -/
  | tracing (on : Bool) : Setting .general
  /-- The last tick, if there is one. -/
  | maxTicks (limit : Option UInt64) : Setting .general
  /-- The number of memory cells. -/
  | ramSize (cells : UInt64) : Setting .memory
  /-- The initial stack pointer. -/
  | stackTop (top : UInt8) : Setting .memory
  /-- The time from tick to tick. -/
  | tickPeriod (period : UInt64) : Setting .clock
  /-- Whether to wait between ticks. -/
  | paced (on : Bool) : Setting .clock

namespace Setting

variable {part : Section}

/-- The key of a setting. -/
def name : Setting part → String
  | .tracing _ => "trace_instructions"
  | .maxTicks _ => "max_ticks"
  | .ramSize _ => "ram_size"
  | .stackTop _ => "stack_top"
  | .tickPeriod _ => "tick_period_us"
  | .paced _ => "paced"

/-- The value of a setting as it is written. -/
def value : Setting part → Json
  | .tracing on => .bool on
  | .maxTicks none => .null
  | .maxTicks (some limit) => .natural limit.toNat
  | .ramSize cells => .natural cells.toNat
  | .stackTop top => .natural top.toNat
  | .tickPeriod period => .natural period.toNat
  | .paced on => .bool on

/-- Replaces one setting of a section. -/
def apply (record : part.Record) : Setting part → part.Record
  | .tracing on => { record with tracing := on : GeneralConfig }
  | .maxTicks limit => { record with maxTicks := limit : GeneralConfig }
  | .ramSize cells => { record with ramSize := cells.toNat : MemoryConfig }
  | .stackTop top => { record with stackTop := top : MemoryConfig }
  | .tickPeriod period => { record with tickPeriod := period : ClockConfig }
  | .paced on => { record with paced := on : ClockConfig }

end Setting

/-- The sections of a text in order, each with its settings in order. -/
abbrev Document := List ((part : Section) × List (Setting part))

namespace Document

/-- A section as it is written. -/
def sectionValue (entry : (part : Section) × List (Setting part)) : Json :=
  .ofMembers (entry.2.map fun x => (x.name, x.value))

/-- A document as it is written. -/
def value (d : Document) : Json :=
  .ofMembers (d.map fun entry => (entry.1.name, sectionValue entry))

/-- All settings of a document. -/
def settings (d : Document) : List ((part : Section) × Setting part) :=
  d.flatMap fun entry => entry.2.map (Sigma.mk entry.1)

/-- No section comes twice, and no setting comes twice in its section. -/
structure Distinct (d : Document) : Prop where
  sections : (d.map fun entry => entry.1.name).Nodup
  settings : ∀ entry ∈ d, (entry.2.map Setting.name).Nodup

end Document

/-! ## Reading a document -/

variable {r : Json.Reader} {part : Section}

/-- A setting is read as it was written. -/
lemma readMember_setting (hr : r.Lawful) (record : part.Record) (x : Setting part) :
    Json.Field.readMember (part.fields r) record (x.name, x.value) = .ok (x.apply record) := by
  cases x with
  | tracing on =>
    change (r.bool (.bool on)).map _ = _
    rw [hr.bool]
    rfl
  | maxTicks limit =>
    cases limit with
    | none =>
      change (r.optional r.word .null).map _ = _
      rw [hr.optional_null]
      rfl
    | some limit =>
      have hsome : r.optional r.word (.natural limit.toNat) = .ok (some limit) :=
        hr.optional_some nofun (hr.word limit)
      change (r.optional r.word (.natural limit.toNat)).map _ = _
      rw [hsome]
      rfl
  | ramSize cells =>
    change (r.word (.natural cells.toNat)).map _ = _
    rw [hr.word]
    rfl
  | stackTop top =>
    change (r.byte (.natural top.toNat)).map _ = _
    rw [hr.byte]
    rfl
  | tickPeriod period =>
    change (r.word (.natural period.toNat)).map _ = _
    rw [hr.word]
    rfl
  | paced on =>
    change (r.bool (.bool on)).map _ = _
    rw [hr.bool]
    rfl

lemma any_name_setting (x : Setting part) :
    ((part.fields r).any fun field => field.name == x.name) = true := by
  cases x <;> rfl

lemma any_name_section (part : Section) :
    ((fields r).any fun field => field.name == part.name) = true := by
  cases part <;> rfl

/-- A section that is written replaces its settings one after the other, from the section without a
setting on, and is refused if one of them comes twice. -/
lemma record_section (hr : r.Lawful) (xs : List (Setting part)) (record : part.Record) :
    r.record (part.fields r) part.leftOut (Document.sectionValue ⟨part, xs⟩) = .ok record ↔
      (xs.map Setting.name).Nodup ∧ xs.foldl Setting.apply part.leftOut = record := by
  have hknown : Json.Field.known (part.fields r) (xs.map fun x => (x.name, x.value)) =
      xs.map fun x => (x.name, x.value) := by
    refine List.filter_eq_self.2 fun member hmember => ?_
    obtain ⟨x, -, rfl⟩ := List.mem_map.1 hmember
    exact any_name_setting x
  have hfold : (xs.map fun x => (x.name, x.value)).foldlM
      (Json.Field.readMember (part.fields r)) part.leftOut =
        .ok (xs.foldl Setting.apply part.leftOut) := by
    rw [List.foldlM_map]
    simp only [readMember_setting hr]
    exact List.foldlM_pure
  rw [Document.sectionValue, hr.record, hknown, hfold, List.map_map, Except.ok.injEq]
  rfl

/-- A section is read as it was written, into its place. -/
lemma readMember_section (hr : r.Lawful) (entry : (part : Section) × List (Setting part))
    (c read : Config) :
    Json.Field.readMember (fields r) c (entry.1.name, Document.sectionValue entry) = .ok read ↔
      (entry.2.map Setting.name).Nodup
        ∧ entry.1.put (entry.2.foldl Setting.apply entry.1.leftOut) c = read := by
  obtain ⟨part, xs⟩ := entry
  have hsection : Json.Field.readMember (fields r) c
      (part.name, Document.sectionValue ⟨part, xs⟩) =
        (r.record (part.fields r) part.leftOut (Document.sectionValue ⟨part, xs⟩)).map
          fun record => part.put record c := by
    cases part <;> rfl
  rw [hsection]
  cases hrecord : r.record (part.fields r) part.leftOut (Document.sectionValue ⟨part, xs⟩) with
  | error reason =>
    refine iff_of_false nofun fun h => ?_
    have hread := (record_section hr xs _).2 ⟨h.1, rfl⟩
    rw [hrecord] at hread
    cases hread
  | ok record =>
    obtain ⟨hnodup, rfl⟩ := (record_section hr xs record).1 hrecord
    exact (Except.ok.injEq ..).to_iff.trans (and_iff_right hnodup).symm

/-- Puts a section that is written in its place. -/
def putSection (c : Config) (entry : (part : Section) × List (Setting part)) : Config :=
  entry.1.put (entry.2.foldl Setting.apply entry.1.leftOut) c

lemma foldlM_sections (hr : r.Lawful) (d : Document) (c read : Config) :
    (d.map fun entry => (entry.1.name, Document.sectionValue entry)).foldlM
        (Json.Field.readMember (fields r)) c = .ok read ↔
      (∀ entry ∈ d, (entry.2.map Setting.name).Nodup) ∧ d.foldl putSection c = read := by
  induction d generalizing c with
  | nil => exact (Except.ok.injEq ..).to_iff.trans (and_iff_right nofun).symm
  | cons entry d ih =>
    rw [List.map_cons, List.foldlM_cons, List.foldl_cons, List.forall_mem_cons]
    cases hentry : Json.Field.readMember (fields r) c
        (entry.1.name, Document.sectionValue entry) with
    | error reason =>
      refine iff_of_false nofun fun h => ?_
      have hread := (readMember_section hr entry c _).2 ⟨h.1.1, rfl⟩
      rw [hentry] at hread
      cases hread
    | ok next =>
      obtain ⟨hnodup, rfl⟩ := (readMember_section hr entry c next).1 hentry
      exact (ih _).trans (and_congr_left' (and_iff_right hnodup).symm)

/-- Replaces one setting of any section. -/
def applyAny (c : Config) (x : (part : Section) × Setting part) : Config :=
  x.1.put (x.2.apply (x.1.get c)) c

/-- The settings of one section are replaced within the section. -/
lemma foldl_applyAny_section (xs : List (Setting part)) (c : Config) :
    (xs.map (Sigma.mk part)).foldl applyAny c =
      part.put (xs.foldl Setting.apply (part.get c)) c := by
  induction xs generalizing c with
  | nil => exact (part.put_get c).symm
  | cons x xs ih =>
    rw [List.map_cons, List.foldl_cons, ih, applyAny, part.get_put, part.put_put]
    rfl

/-- Sections that come once each, into a configuration where they are still as if there was no
setting in them, replace their settings one after the other. -/
lemma foldl_putSection {d : Document} (hd : (d.map fun entry => entry.1.name).Nodup) {c : Config}
    (hc : ∀ entry ∈ d, entry.1.get c = entry.1.leftOut) :
    d.foldl putSection c = d.settings.foldl applyAny c := by
  induction d generalizing c with
  | nil => rfl
  | cons entry d ih =>
    rw [List.map_cons, List.nodup_cons] at hd
    obtain ⟨hfresh, hd⟩ := hd
    have hentry : putSection c entry = (entry.2.map (Sigma.mk entry.1)).foldl applyAny c := by
      rw [foldl_applyAny_section, hc entry List.mem_cons_self]
      rfl
    rw [List.foldl_cons, Document.settings, List.flatMap_cons, List.foldl_append, ← hentry]
    refine ih hd fun other hother => ?_
    have hne : other.1 ≠ entry.1 := by
      intro heq
      exact hfresh (List.mem_map.2 ⟨other, hother, congrArg Section.name heq⟩)
    rw [putSection, Section.get_put_of_ne hne]
    exact hc other (List.mem_cons_of_mem _ hother)

/-! ## Reading a text -/

lemma fits_setting (depth : Nat) (x : Setting part) : Json.Fits depth x.value := by
  cases x with
  | tracing on => exact .bool on
  | maxTicks limit =>
    cases limit with
    | none => exact .null
    | some limit => exact .natural limit
  | ramSize cells => exact .natural cells
  | stackTop top =>
    rw [Setting.value, ← UInt8.toNat_toUInt64]
    exact .natural top.toUInt64
  | tickPeriod period => exact .natural period
  | paced on => exact .bool on

lemma fits_document (d : Document) : Json.Fits Json.nestingLimit d.value := by
  refine @Json.Fits.object 126 _ fun member hmember => ?_
  simp only [List.map_map, List.mem_map] at hmember
  obtain ⟨entry, -, rfl⟩ := hmember
  refine @Json.Fits.object 125 _ fun member hmember => ?_
  simp only [List.map_map, List.mem_map] at hmember
  obtain ⟨x, -, rfl⟩ := hmember
  exact fits_setting _ x

/-- A document replaces its settings one after the other, and is refused if something in it comes
twice. -/
lemma parse_document (hr : r.Lawful) {d : Document} {text : String}
    (h : Json.Laid d.value.tokens text.toList) (c : Config) :
    parse r text = .ok c ↔ d.Distinct ∧ d.settings.foldl applyAny {} = c := by
  have hknown : Json.Field.known (fields r)
      (d.map fun entry => (entry.1.name, Document.sectionValue entry)) =
        d.map fun entry => (entry.1.name, Document.sectionValue entry) := by
    refine List.filter_eq_self.2 fun member hmember => ?_
    obtain ⟨entry, -, rfl⟩ := List.mem_map.1 hmember
    exact any_name_section entry.1
  have hparse : parse r text = r.record (fields r) leftOut d.value := by
    rw [parse, hr.parse (fits_document d) h]
    rfl
  have hfold (hd : (d.map fun entry => entry.1.name).Nodup) :
      d.foldl putSection leftOut = d.settings.foldl applyAny {} :=
    foldl_putSection hd fun entry _ => entry.1.leftOut_eq.symm
  rw [hparse, Document.value, hr.record, hknown, List.map_map, foldlM_sections hr]
  constructor
  · rintro ⟨hsections, hsettings, rfl⟩
    exact ⟨⟨hsections, hsettings⟩, (hfold hsections).symm⟩
  · rintro ⟨⟨hsections, hsettings⟩, rfl⟩
    exact ⟨hsections, hsettings, hfold hsections⟩

/-! ## Overrides -/

/-- Values for some of the settings. -/
structure Overrides where
  /-- Whether instructions are recorded. -/
  tracing : Option Bool := none
  /-- The last tick, or that there is none. -/
  maxTicks : Option (Option UInt64) := none
  /-- The number of memory cells. -/
  ramSize : Option UInt64 := none
  /-- The initial stack pointer. -/
  stackTop : Option UInt8 := none
  /-- The time from tick to tick. -/
  tickPeriod : Option UInt64 := none
  /-- Whether to wait between ticks. -/
  paced : Option Bool := none

namespace Overrides

/-- A configuration with the chosen settings replaced and all others as they are. -/
def applyTo (o : Overrides) (c : Config) : Config where
  tracing := o.tracing.getD c.tracing
  maxTicks := o.maxTicks.getD c.maxTicks
  ramSize := (o.ramSize.map UInt64.toNat).getD c.ramSize
  stackTop := o.stackTop.getD c.stackTop
  tickPeriod := o.tickPeriod.getD c.tickPeriod
  paced := o.paced.getD c.paced

/-- The chosen settings. -/
def settings (o : Overrides) : List ((part : Section) × Setting part) :=
  (o.tracing.map fun v => ⟨.general, .tracing v⟩).toList ++
    (o.maxTicks.map fun v => ⟨.general, .maxTicks v⟩).toList ++
    (o.ramSize.map fun v => ⟨.memory, .ramSize v⟩).toList ++
    (o.stackTop.map fun v => ⟨.memory, .stackTop v⟩).toList ++
    (o.tickPeriod.map fun v => ⟨.clock, .tickPeriod v⟩).toList ++
    (o.paced.map fun v => ⟨.clock, .paced v⟩).toList

lemma nodup_names (o : Overrides) : (o.settings.map fun x => x.2.name).Nodup := by
  have chosen {α : Type} (v : Option α) {f : α → (part : Section) × Setting part} (name : String)
      (h : ∀ v, (f v).2.name = name) :
      ((v.map f).toList.map fun x => x.2.name).Sublist [name] := by
    cases v with
    | none => exact List.nil_sublist _
    | some v => exact (h v) ▸ List.Sublist.refl _
  have hall : (o.settings.map fun x => x.2.name).Sublist
      (["trace_instructions"] ++ ["max_ticks"] ++ ["ram_size"] ++ ["stack_top"]
        ++ ["tick_period_us"] ++ ["paced"]) := by
    simp only [settings, List.map_append]
    refine (((((chosen _ _ ?_).append (chosen _ _ ?_)).append (chosen _ _ ?_)).append
      (chosen _ _ ?_)).append (chosen _ _ ?_)).append (chosen _ _ ?_)
    all_goals exact fun _ => rfl
  exact hall.nodup (by decide)

lemma foldl_settings (o : Overrides) (c : Config) : o.settings.foldl applyAny c = o.applyTo c := by
  obtain ⟨tracing, maxTicks, ramSize, stackTop, tickPeriod, paced⟩ := o
  cases tracing <;> cases maxTicks <;> cases ramSize <;> cases stackTop <;> cases tickPeriod <;>
    cases paced <;> rfl

end Overrides

/-- Settings of different names touch different parts of a configuration. -/
lemma applyAny_comm {x y : (part : Section) × Setting part} (h : x.2.name = y.2.name → x = y)
    (c : Config) : applyAny (applyAny c x) y = applyAny (applyAny c y) x := by
  obtain ⟨_, x⟩ := x
  obtain ⟨_, y⟩ := y
  cases x <;> cases y <;> first | rfl | rw [h rfl]

/-- The order of the settings does not matter. -/
lemma foldl_applyAny_eq {o : Overrides} {d : Document} (h : d.settings.Perm o.settings)
    (c : Config) : d.settings.foldl applyAny c = o.applyTo c := by
  rw [← o.foldl_settings c]
  refine h.foldl_eq' (fun x hx y hy c => applyAny_comm ?_ c) c
  exact List.inj_on_of_nodup_map o.nodup_names (h.mem_iff.1 hx) (h.mem_iff.1 hy)

/-! ## The check -/

end Config

/-- The error is about settings that do not go together, not about the text. -/
def ConfigError.IsInvalid : ConfigError → Prop
  | .ramSize _ | .stackTop _ _ | .tickPeriod => True
  | .unreadable _ _ | .malformed _ => False

namespace Config

lemma isInvalid_of_validate {c : Config} {e : ConfigError} (h : c.validate = .error e) :
    e.IsInvalid := by
  rw [validate] at h
  split_ifs at h <;> cases h <;> trivial

lemma ofText_of_ok {text : String} {c : Config} (h : parse r text = .ok c) :
    ofText r text = c.validate.map fun _ => c := by
  rw [ofText, h]

lemma valid_of_ofText {text : String} {c : Config} (h : ofText r text = .ok c) : c.Valid := by
  cases hparse : parse r text with
  | error reason =>
    rw [ofText, hparse] at h
    cases h
  | ok read =>
    rw [ofText_of_ok hparse] at h
    cases hcheck : read.validate with
    | error e =>
      rw [hcheck] at h
      cases h
    | ok =>
      rw [hcheck] at h
      cases h
      exact (validate_eq_ok_iff _).1 hcheck

/-- It makes no difference whether a section without a setting is there. -/
lemma ofText_emptySection (hr : r.Lawful) {d : Document} (hd : d.Distinct)
    (hpart : part.name ∉ d.map fun entry => entry.1.name) {text shorter : String}
    (htext : Json.Laid (Document.value (⟨part, []⟩ :: d)).tokens text.toList)
    (hshorter : Json.Laid d.value.tokens shorter.toList) : ofText r text = ofText r shorter := by
  have hdistinct : Document.Distinct (⟨part, []⟩ :: d) :=
    ⟨List.nodup_cons.2 ⟨hpart, hd.sections⟩,
      List.forall_mem_cons.2 ⟨List.nodup_nil, hd.settings⟩⟩
  rw [ofText_of_ok ((parse_document hr htext _).2 ⟨hdistinct, rfl⟩),
    ofText_of_ok ((parse_document hr hshorter _).2 ⟨hd, rfl⟩)]
  rfl

/-- **A configuration text overrides the defaults in part.**  However a choice of settings is
written down, in sections and settings of any order and with any layout, the text is read as the
default configuration with exactly these settings replaced if that passes the check, and is refused
with the fault that the check finds otherwise.  A text in which a section or a setting comes twice
is refused as malformed, and a section without a setting makes no difference.  So whatever is read
describes a machine that can be built.  All of this holds with any reader of JSON that keeps to the
rules. -/
theorem ofText_document (hr : r.Lawful) :
    (∀ (o : Overrides) (d : Document) (text : String), d.Distinct → d.settings.Perm o.settings →
      Json.Laid d.value.tokens text.toList →
        ((o.applyTo {}).validate = .ok () ∧ ofText r text = .ok (o.applyTo {})
          ∨ ∃ e, (o.applyTo {}).validate = .error e ∧ e.IsInvalid ∧ ofText r text = .error e))
      ∧ (∀ (d : Document) (text : String), ¬ d.Distinct →
          Json.Laid d.value.tokens text.toList →
            ∃ reason, ofText r text = .error (.malformed reason))
      ∧ (∀ (part : Section) (d : Document) (text shorter : String), d.Distinct →
          (part.name ∉ d.map fun entry => entry.1.name) →
          Json.Laid (Document.value (⟨part, []⟩ :: d)).tokens text.toList →
            Json.Laid d.value.tokens shorter.toList → ofText r text = ofText r shorter)
      ∧ ∀ (text : String) (c : Config), ofText r text = .ok c →
          1 ≤ c.ramSize ∧ c.ramSize ≤ 256 ∧ c.stackTop.toNat < c.ramSize
            ∧ (c.paced = true → c.tickPeriod ≠ 0) := by
  refine ⟨fun o d text hdistinct hsettings htext => ?_, fun d text htwice htext => ?_,
    fun part d text shorter hd hpart => ofText_emptySection hr hd hpart,
    fun text c h => valid_of_ofText h⟩
  · have hparse : parse r text = .ok (o.applyTo {}) :=
      (parse_document hr htext _).2 ⟨hdistinct, foldl_applyAny_eq hsettings {}⟩
    rw [ofText_of_ok hparse]
    cases hcheck : (o.applyTo {}).validate with
    | ok => exact Or.inl ⟨rfl, rfl⟩
    | error e => exact Or.inr ⟨e, rfl, isInvalid_of_validate hcheck, rfl⟩
  · cases hparse : parse r text with
    | ok c => exact absurd ((parse_document hr htext c).1 hparse).1 htwice
    | error reason =>
      refine ⟨reason, ?_⟩
      rw [ofText, hparse]

/-- A memory of sixty-four cells and the stack pointer at the last of them. -/
def smallMemoryChoice : Overrides :=
  { ramSize := some 64, stackTop := some 63 }

/-- The choice with the stack pointer first and the clock mentioned without a setting. -/
def smallMemory : Document :=
  [⟨.clock, []⟩, ⟨.memory, [.stackTop 63, .ramSize 64]⟩]

/-- The document as a text, with white space here and there and an escape in a key. -/
def smallMemoryText : String :=
  "\x7b\"clock\" : \x7b\x7d,\n\"memory\":\x7b\"stack_top\":63,\"ram_\\u0073ize\":64\x7d\x7d\r\n"

lemma laid_smallMemory : Json.Laid smallMemory.value.tokens smallMemoryText.toList := by
  have hkey : Json.Spells (.string (some (String.ofList "ram_size".toList)))
      ('"' :: ("ram_\\u0073ize".toList ++ ['"'])) := by
    have hescape : Json.WritesChar 's' ['\\', 'u', '0', '0', '7', '3'] := .value (by decide)
    have hend : Json.WritesText "ize".toList "ize".toList :=
      @Json.WritesText.append_plain "ize".toList (by decide) [] [] .nil
    have htext : Json.WritesText "ram_size".toList "ram_\\u0073ize".toList :=
      @Json.WritesText.append_plain "ram_".toList (by decide) _ _ (.cons hescape hend)
    exact .string htext
  have htokens : smallMemory.value.tokens =
      [.openBrace, .string (some (String.ofList "clock".toList)), .colon, .openBrace, .closeBrace,
        .comma, .string (some (String.ofList "memory".toList)), .colon, .openBrace,
        .string (some (String.ofList "stack_top".toList)), .colon, .natural 63, .comma,
        .string (some (String.ofList "ram_size".toList)), .colon, .natural 64, .closeBrace,
        .closeBrace] := by
    decide +kernel
  have hcut : smallMemoryText.toList =
      ['\x7b'] ++ ('"' :: ("clock".toList ++ ['"']) ++ (' ' :: ([':'] ++ (' ' :: (['\x7b'] ++
        (['\x7d'] ++ ([','] ++ ('\n' :: ('"' :: ("memory".toList ++ ['"']) ++ ([':'] ++
        (['\x7b'] ++ ('"' :: ("stack_top".toList ++ ['"']) ++ ([':'] ++ (Nat.toDigits 10 63 ++
        ([','] ++ ('"' :: ("ram_\\u0073ize".toList ++ ['"']) ++ ([':'] ++ (Nat.toDigits 10 64 ++
        (['\x7d'] ++ (['\x7d'] ++ ['\r', '\n'])))))))))))))))))))) := by
    decide +kernel
  rw [htokens, hcut]
  exact .token (.mark rfl) <| .token (.plain (by decide)) <| .space rfl <| .token (.mark rfl) <|
    .space rfl <| .token (.mark rfl) <| .token (.mark rfl) <| .token (.mark rfl) <| .space rfl <|
    .token (.plain (by decide)) <| .token (.mark rfl) <| .token (.mark rfl) <|
    .token (.plain (by decide)) <| .token (.mark rfl) <| .token (.natural 63) <|
    .token (.mark rfl) <| .token hkey <| .token (.mark rfl) <| .token (.natural 64) <|
    .token (.mark rfl) <| .token (.mark rfl) <| .space rfl <| .space rfl .nil

/-- The clock mentioned twice, each time without a setting. -/
def twoClocks : Document :=
  [⟨.clock, []⟩, ⟨.clock, []⟩]

/-- The two clocks as a text. -/
def twoClocksText : String :=
  "\x7b\"clock\":\x7b\x7d,\"clock\":\x7b\x7d\x7d"

lemma laid_twoClocks : Json.Laid twoClocks.value.tokens twoClocksText.toList := by
  have htokens : twoClocks.value.tokens =
      [.openBrace, .string (some (String.ofList "clock".toList)), .colon, .openBrace, .closeBrace,
        .comma, .string (some (String.ofList "clock".toList)), .colon, .openBrace, .closeBrace,
        .closeBrace] := by
    decide +kernel
  have hcut : twoClocksText.toList =
      ['\x7b'] ++ ('"' :: ("clock".toList ++ ['"']) ++ ([':'] ++ (['\x7b'] ++ (['\x7d'] ++
        ([','] ++ ('"' :: ("clock".toList ++ ['"']) ++ ([':'] ++ (['\x7b'] ++ (['\x7d'] ++
        (['\x7d'] ++ [])))))))))) := by
    decide +kernel
  rw [htokens, hcut]
  exact .token (.mark rfl) <| .token (.plain (by decide)) <| .token (.mark rfl) <|
    .token (.mark rfl) <| .token (.mark rfl) <| .token (.mark rfl) <|
    .token (.plain (by decide)) <| .token (.mark rfl) <| .token (.mark rfl) <|
    .token (.mark rfl) <| .token (.mark rfl) .nil

/-- The small memory is read as it was chosen, and a clock that comes twice is refused. -/
theorem ofText_document_smallMemory :
    ofText Json.reader smallMemoryText = .ok { ramSize := 64, stackTop := 63 }
      ∧ (∃ reason, ofText Json.reader twoClocksText = .error (.malformed reason))
      ∧ ∀ c, ofText Json.reader smallMemoryText = .ok c → c.stackTop.toNat < c.ramSize := by
  obtain ⟨hread, htwice, -, hvalid⟩ := ofText_document Json.lawful_reader
  have hdistinct : smallMemory.Distinct :=
    ⟨by decide, by simp only [smallMemory, List.forall_mem_cons]; decide⟩
  have hsettings : smallMemory.settings.Perm smallMemoryChoice.settings := .swap _ _ []
  have htwo : ¬ twoClocks.Distinct := fun h => absurd h.sections (by decide)
  refine ⟨?_, htwice twoClocks twoClocksText htwo laid_twoClocks, fun c h => (hvalid _ c h).2.2.1⟩
  rcases hread smallMemoryChoice smallMemory smallMemoryText hdistinct hsettings
    laid_smallMemory with ⟨-, h⟩ | ⟨e, he, -⟩
  · exact h
  · have hcheck : (smallMemoryChoice.applyTo {}).validate = .ok () := by decide
    exact absurd (he.symm.trans hcheck) (by simp)

end Config

end LS8
