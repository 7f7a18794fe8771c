import LS8.CommandLine.Invocation
import LS8.Proofs.ConfigText
import LS8.Proofs.TickLimit
import LS8.Proofs.Transcript

/-!
# The command line

What the command answers when it is given one file.  `Configures` says which configuration is asked
for; `Refuses` says when there is no machine to run, and why; `Runs` says which machine is run
otherwise; `EndsAfter` says when a run is over and in which way.  None of them speaks of a budget.
A refusal is answered within any (`invoke_of_refuses`), and a run within those that its ticks fit
into (`invoke_of_endsAfter`, `endsAfter_of_invoke`).

`invoke_is_faithful` puts them together: the exit code tells whether the program halted in time,
standard output has what the program printed and nothing else, and standard error ends with the
cause of every failure.  Who reads the arguments has to find the one file that they name
(`Libraries.ReadsNames`), and of who reads JSON nothing is asked.
-/

namespace LS8

/-! ## How a run ends -/

namespace Simulator

variable {s s' : Simulator} {result : Except Fault Exit}

/-- A run is over after `k` ticks, with the given result. -/
inductive EndsAfter (s : Simulator) : Nat → Except Fault Exit → Prop where
  /-- The last tick carried out a halt. -/
  | halted {last : Nat} (h : s.machine.HaltsAt (last + 1))
      (hhalt : (s.machine.afterTicks last).ExecutesHalt)
      (hroom : ∀ limit, s.maxTicks = some limit → last + 1 ≤ limit.toNat) :
      EndsAfter s (last + 1) (.ok .halted)
  /-- The last tick was a fault. -/
  | faulted {last : Nat} {fault : Fault} (h : s.machine.HaltsAt (last + 1))
      (hfault : ((s.machine.afterTicks last).perform Machine.tick).1 = .error fault)
      (hroom : ∀ limit, s.maxTicks = some limit → last + 1 ≤ limit.toNat) :
      EndsAfter s (last + 1) (.error fault)
  /-- The limit was used up before. -/
  | tickLimit {limit : UInt64} (hlimit : s.maxTicks = some limit)
      (hrunning : ∀ j ≤ limit.toNat, (s.machine.afterTicks j).phase ≠ .halted) :
      EndsAfter s limit.toNat (.ok .tickLimit)

/-- A run that ends with a halt carried out a halt in time, and one that could have done so did. -/
lemma EndsAfter.eq_halted_iff {k : Nat} (h : s.EndsAfter k result) :
    result = .ok .halted ↔ ∃ last, s.machine.HaltsAt (last + 1)
      ∧ (s.machine.afterTicks last).ExecutesHalt
      ∧ ∀ limit, s.maxTicks = some limit → last + 1 ≤ limit.toNat := by
  cases h with
  | halted h hhalt hroom => exact ⟨fun _ => ⟨_, h, hhalt, hroom⟩, fun _ => rfl⟩
  | @faulted last fault h hfault hroom =>
    refine ⟨nofun, ?_⟩
    rintro ⟨last', h', hhalt, -⟩
    obtain rfl : last = last' := Nat.succ.inj (h.unique h')
    have htick := (Machine.tick_ok_iff_executesHalt (h.2 last (Nat.lt_succ_self last))
      (Machine.afterTicks_succ last ▸ h.1)).2 hhalt
    rw [hfault] at htick
    cases htick
  | @tickLimit limit hlimit hrunning =>
    refine ⟨nofun, ?_⟩
    rintro ⟨last, h, -, hroom⟩
    exact absurd h.1 (hrunning (last + 1) (hroom limit hlimit))

/-- A run whose machine halts before the limit is over then. -/
lemma exists_endsAfter_of_haltsAt {last : Nat} (h : s.machine.HaltsAt (last + 1))
    (hroom : ∀ limit, s.maxTicks = some limit → last + 1 ≤ limit.toNat) :
    ∃ result, s.EndsAfter (last + 1) result := by
  cases htick : ((s.machine.afterTicks last).perform Machine.tick).1 with
  | error fault => exact ⟨_, .faulted h htick hroom⟩
  | ok done =>
    have hhalt := (Machine.tick_ok_iff_executesHalt (h.2 last (Nat.lt_succ_self last))
      (Machine.afterTicks_succ last ▸ h.1)).1 htick
    exact ⟨_, .halted h hhalt hroom⟩

/-- Within a budget a run is over, or all of its ticks are used up and neither a halt nor the limit
has come. -/
lemma endsAfter_or_running (hphase : s.machine.phase ≠ .halted) (budget : Nat) :
    (∃ k ≤ budget, ∃ result, s.EndsAfter k result)
      ∨ (∀ j ≤ budget, (s.machine.afterTicks j).phase ≠ .halted)
        ∧ ∀ limit, s.maxTicks = some limit → budget < limit.toNat := by
  by_cases hlimited : ∃ limit, s.maxTicks = some limit ∧ limit.toNat ≤ budget
      ∧ ∀ j ≤ limit.toNat, (s.machine.afterTicks j).phase ≠ .halted
  · obtain ⟨limit, hlimit, hle, hrunning⟩ := hlimited
    exact Or.inl ⟨_, hle, _, .tickLimit hlimit hrunning⟩
  by_cases hhalts : ∃ j ≤ budget, (s.machine.afterTicks j).phase = .halted
  · obtain ⟨j, hj, hhalted⟩ := hhalts
    obtain ⟨i, hi, hat⟩ := Machine.exists_haltsAt hhalted
    obtain ⟨last, rfl⟩ := Nat.exists_eq_succ_of_ne_zero (Nat.pos_iff_ne_zero.1 (hat.pos hphase))
    refine Or.inl ⟨last + 1, hi.trans hj, exists_endsAfter_of_haltsAt hat fun limit hlimit => ?_⟩
    by_contra hlate
    exact hlimited ⟨limit, hlimit, by omega, fun j hj => hat.2 j (by omega)⟩
  · have hrunning : ∀ j ≤ budget, (s.machine.afterTicks j).phase ≠ .halted :=
      fun j hj hhalted => hhalts ⟨j, hj, hhalted⟩
    refine Or.inr ⟨hrunning, fun limit hlimit => ?_⟩
    by_contra hlate
    exact hlimited ⟨limit, hlimit, by omega, fun j hj => hrunning j (by omega)⟩

/-- A run that is over after `k` ticks ends within any budget of so many. -/
lemma EndsAfter.run (hfresh : s.machine.statistics.ticks = 0) {k : Nat} (h : s.EndsAfter k result)
    {budget : Nat} (hbudget : k ≤ budget) :
    ∃ s', s.run budget = (some result, s')
      ∧ s'.machine.output = (s.machine.afterTicks k).output := by
  cases h with
  | @halted last h hhalt hroom =>
    have htick := (Machine.tick_ok_iff_executesHalt (h.2 last (Nat.lt_succ_self last))
      (Machine.afterTicks_succ last ▸ h.1)).2 hhalt
    have hrun := run_of_haltsAt_within hfresh h hroom hbudget
    rw [htick] at hrun
    exact ⟨_, hrun, rfl⟩
  | @faulted last fault h hfault hroom =>
    have hrun := run_of_haltsAt_within hfresh h hroom hbudget
    rw [hfault] at hrun
    exact ⟨_, hrun, rfl⟩
  | @tickLimit limit hlimit hrunning =>
    exact ⟨_, run_of_limit hlimit hfresh hrunning hbudget, Machine.output_started _⟩

/-- A run that has ended within a budget is over after no more ticks than that. -/
lemma endsAfter_of_run (hfresh : s.machine.statistics.ticks = 0)
    (hphase : s.machine.phase ≠ .halted) {budget : Nat} (h : s.run budget = (some result, s')) :
    ∃ k ≤ budget, s.EndsAfter k result := by
  rcases endsAfter_or_running hphase budget with ⟨k, hk, other, hends⟩ | ⟨hrunning, hroom⟩
  · obtain ⟨s'', hrun, -⟩ := hends.run hfresh hk
    obtain rfl := Option.some.inj (congrArg Prod.fst (h.symm.trans hrun))
    exact ⟨k, hk, hends⟩
  · have hnone := run_of_running hfresh hrunning hroom
    rw [h] at hnone
    cases hnone

/-- A run that has ended within a budget ends in the same way within a larger one. -/
lemma runFor_add {budget : Nat} (h : s.runFor budget = (some result, s')) (more : Nat) :
    s.runFor (budget + more) = (some result, s') := by
  induction budget generalizing s with
  | zero =>
    cases hexit : s.exit? with
    | some e => rw [← h, runFor_of_exit hexit, runFor_of_exit hexit]
    | none =>
      rw [runFor, hexit] at h
      cases h
  | succ budget ih =>
    cases hexit : s.exit? with
    | some e => rw [← h, runFor_of_exit hexit, runFor_of_exit hexit]
    | none =>
      rw [runFor_succ hexit] at h
      rw [Nat.add_right_comm, runFor_succ hexit]
      cases htick : s.tick with
      | mk answer ticked =>
        rw [htick] at h
        cases answer with
        | ok done => exact ih h
        | error fault => exact h

lemma run_add {budget : Nat} (h : s.run budget = (some result, s')) (more : Nat) :
    s.run (budget + more) = (some result, s') := by
  rw [run_eq] at h ⊢
  exact runFor_add h more

end Simulator

namespace CommandLine

/-! ## The arguments -/

/-- The arguments name one file and have no options among them. -/
inductive NamesFile : List String → String → Prop where
  /-- The name alone, if it does not look like an option. -/
  | alone {path : String} (hne : path ≠ "") (hname : isOption path = false) :
      NamesFile [path] path
  /-- Two dashes in front, after which every argument is a name. -/
  | afterDashes {path : String} (hne : path ≠ "") : NamesFile ["--", path] path
  /-- Two dashes behind, after which nothing comes. -/
  | beforeDashes {path : String} (hne : path ≠ "") (hname : isOption path = false) :
      NamesFile [path, "--"] path

variable {arguments : List String} {path : String}

lemma takePath_none (hne : path ≠ "") : takePath none path = .ok path := by
  rw [takePath]
  exact if_neg fun hempty => hne (String.isEmpty_iff.1 hempty)

/-- Whoever names one file has it run. -/
lemma ofArguments_of_namesFile (h : NamesFile arguments path) :
    Request.ofArguments arguments = .ok (.run path) := by
  cases h with
  | alone hne hname =>
    have hdashes : path ≠ "--" := by
      rintro rfl
      exact absurd hname (by decide)
    rw [Request.ofArguments, readArguments, if_neg hdashes, hname, takePath_none hne]
    rfl
  | afterDashes hne =>
    rw [Request.ofArguments, readArguments, if_pos rfl, readNames, takePath_none hne]
    rfl
  | beforeDashes hne hname =>
    have hdashes : path ≠ "--" := by
      rintro rfl
      exact absurd hname (by decide)
    rw [Request.ofArguments, readArguments, if_neg hdashes, hname, takePath_none hne]
    rfl

/-- What the reading of the arguments can be relied on for: one file that is named is found. -/
def Libraries.ReadsNames (lib : Libraries) : Prop :=
  ∀ ⦃arguments path⦄, NamesFile arguments path → lib.arguments arguments = .ok path

/-- The libraries that the command is built with find the file that is named. -/
lemma readsNames_libraries : libraries.ReadsNames := by
  intro arguments path h
  show pathOfArguments arguments = .ok path
  rw [pathOfArguments, ofArguments_of_namesFile h]

/-! ## Lines on standard error -/

/-- The text is empty or ends with the end of a line. -/
def EndsLine (text : String) : Prop :=
  text = "" ∨ ∃ front, text = front ++ "\n"

/-- The text ends with `last`, which begins on a line of its own. -/
def EndsWith (text last : String) : Prop :=
  ∃ front, EndsLine front ∧ text = front ++ last

lemma endsLine_append {a b : String} (h : ∃ front, b = front ++ "\n") : EndsLine (a ++ b) := by
  obtain ⟨front, rfl⟩ := h
  exact Or.inr ⟨a ++ front, (String.append_assoc ..).symm⟩

lemma EndsLine.append {a b : String} (ha : EndsLine a) (hb : EndsLine b) : EndsLine (a ++ b) := by
  rcases hb with rfl | hb
  · rwa [String.append_empty]
  · exact endsLine_append hb

lemma endsLine_logText (filter : LogFilter) (es : List Event) : EndsLine (logText filter es) := by
  rw [logText]
  induction filter.admitted es with
  | nil => exact Or.inl rfl
  | cons e rest ih =>
    rw [List.map_cons, String.join_cons]
    exact EndsLine.append (Or.inr ⟨_, rfl⟩) ih

lemma endsLine_report (s : Statistics) (seconds : String) : EndsLine (s.report seconds) := by
  have hruler : ∃ front, Statistics.ruler '=' = front ++ "\n" :=
    ⟨String.ofList (List.replicate 58 '='), rfl⟩
  unfold Statistics.report
  exact endsLine_append hruler

/-! ## The answer -/

variable (lib : Libraries)

/-- The configuration that the environment asks for, or why it is refused. -/
inductive Configures (env : Environment) : Except ConfigError Config → Prop where
  /-- No file is set, and the defaults are used. -/
  | defaults (hpath : env.configPath = none) : Configures env (.ok {})
  /-- A file is set that is no text that can be read. -/
  | unreadable {name : String} {failure : ReadFailure} (hpath : env.configPath = some name)
      (h : env.contents name = .error failure) : Configures env (.error (.unreadable name failure))
  /-- A file is set, and its text is read as a configuration. -/
  | text {name text : String} (hpath : env.configPath = some name)
      (h : env.contents name = .ok text) : Configures env (Config.ofText lib.json text)

/-- There is no machine to run, and `e` says why. -/
inductive Refuses (env : Environment) (path : String) : BuildError → Prop where
  /-- The configuration is refused. -/
  | config {e : ConfigError} (h : Configures lib env (.error e)) : Refuses env path (.config e)
  /-- The file is no text that can be read. -/
  | unreadable {c : Config} {failure : ReadFailure} (hconfig : Configures lib env (.ok c))
      (h : env.contents path = .error failure) :
      Refuses env path (.load (.unreadable path failure))
  /-- The program has more bytes than memory has cells. -/
  | tooLong {c : Config} {text : String} (hconfig : Configures lib env (.ok c))
      (htext : env.contents path = .ok text)
      (hlong : c.ramSize < (Program.parse text).bytes.length) :
      Refuses env path (.load (.tooLong (.memoryOutOfBounds c.ramSize c.ramSize)))

/-- The program in the file is run under the configuration `c`, by the simulator `s`. -/
structure Runs (env : Environment) (path : String) (c : Config) (s : Simulator) : Prop where
  config : Configures lib env (.ok c)
  program : ∃ text, env.contents path = .ok text
    ∧ Simulator.load (Program.parse text).bytes c .unlimited = .ok s

/-- The program in the file can be run, and a tick that the limit allows carries out a halt. -/
def HaltsInTime (env : Environment) (path : String) : Prop :=
  ∃ c text s last, Configures lib env (.ok c) ∧ env.contents path = .ok text
    ∧ (Program.parse text).bytes.length ≤ c.ramSize
    ∧ Simulator.load (Program.parse text).bytes c .unlimited = .ok s
    ∧ s.machine.HaltsAt (last + 1) ∧ (s.machine.afterTicks last).ExecutesHalt
    ∧ ∀ limit, c.maxTicks = some limit → last + 1 ≤ limit.toNat

/-- The response says that there is no machine to run, and why. -/
structure ReportsRefusal (e : BuildError) (r : Response) : Prop where
  code : r.code = 1
  stdout : r.stdout = ""
  stderr : EndsWith r.stderr ("[!] FATAL: " ++ e.message ++ "\n")

/-- The response says how a run ended that left the machine `m`. -/
structure ReportsRun (m : Machine) (result : Except Fault Exit) (r : Response) : Prop where
  stdout : r.stdout = m.output.text
  halted : result = .ok .halted → r.code = 0
  tickLimit : result = .ok .tickLimit → r.code = 1
    ∧ EndsWith r.stderr ("[!] tick limit reached before HLT\n" ++ m.stateReport ++ "\n")
  faulted : ∀ fault, result = .error fault → r.code = 1
    ∧ EndsWith r.stderr ("[!] FATAL: " ++ fault.message ++ "\n" ++ m.stateReport ++ "\n")

variable {lib : Libraries} {env : Environment} {c : Config} {s s' : Simulator}
  {result : Except Fault Exit} {budget : Nat} {seconds : String} {r : Response}

lemma configuration_of_none (hpath : env.configPath = none) : configuration lib env = .ok {} := by
  rw [configuration, hpath]

lemma configuration_of_some {name : String} (hpath : env.configPath = some name) :
    configuration lib env = Config.ofFile lib.json name (env.contents name) := by
  rw [configuration, hpath]

/-- The command finds the configuration that the environment asks for. -/
lemma Configures.configuration_eq {answer : Except ConfigError Config}
    (h : Configures lib env answer) : configuration lib env = answer := by
  cases h with
  | defaults hpath => exact configuration_of_none hpath
  | unreadable hpath h => rw [configuration_of_some hpath, h, Config.ofFile]
  | text hpath h => rw [configuration_of_some hpath, h, Config.ofFile]

lemma configures_configuration (lib : Libraries) (env : Environment) :
    Configures lib env (configuration lib env) := by
  cases hpath : env.configPath with
  | none =>
    rw [configuration_of_none hpath]
    exact .defaults hpath
  | some name =>
    rw [configuration_of_some hpath]
    cases h : env.contents name with
    | error failure => exact .unreadable hpath h
    | ok text => exact .text hpath h

lemma Configures.unique {answer other : Except ConfigError Config}
    (h : Configures lib env answer) (h' : Configures lib env other) : answer = other :=
  h.configuration_eq.symm.trans h'.configuration_eq

lemma Configures.valid (h : Configures lib env (.ok c)) : c.Valid := by
  generalize hanswer : Except.ok c = answer at h
  cases h with
  | defaults hpath =>
    obtain rfl := Except.ok.inj hanswer
    exact (Config.validate_eq_ok_iff _).1 rfl
  | unreadable hpath h => cases hanswer
  | text hpath h => exact Config.valid_of_ofText hanswer.symm

lemma refuses_or_runs (lib : Libraries) (env : Environment) (path : String) :
    (∃ e, Refuses lib env path e) ∨ ∃ c s, Runs lib env path c s := by
  have hconfigures := configures_configuration lib env
  cases hconfig : configuration lib env with
  | error e => exact Or.inl ⟨_, .config (hconfig ▸ hconfigures)⟩
  | ok c =>
    rw [hconfig] at hconfigures
    cases htext : env.contents path with
    | error failure => exact Or.inl ⟨_, .unreadable hconfigures htext⟩
    | ok text =>
      rcases Nat.lt_or_ge c.ramSize (Program.parse text).bytes.length with hlong | hfits
      · exact Or.inl ⟨_, .tooLong hconfigures htext hlong⟩
      · obtain ⟨s, hload⟩ : ∃ s, Simulator.load (Program.parse text).bytes c .unlimited = .ok s :=
          ⟨_, Simulator.load_eq_ok_iff.2 ⟨hconfigures.valid, hfits, rfl⟩⟩
        exact Or.inr ⟨c, s, hconfigures, text, htext, hload⟩

lemma Refuses.prepare {e : BuildError} (h : Refuses lib env path e) :
    ∃ events, CommandLine.prepare lib env path = .error ⟨e, events⟩ := by
  rw [CommandLine.prepare]
  cases h with
  | config h =>
    rw [h.configuration_eq]
    exact ⟨_, rfl⟩
  | unreadable hconfig h =>
    rw [hconfig.configuration_eq, h]
    exact ⟨_, rfl⟩
  | tooLong hconfig htext hlong =>
    rw [hconfig.configuration_eq, htext]
    simp only [Program.ofFile, Simulator.load_of_lt .unlimited hconfig.valid hlong]
    exact ⟨_, rfl⟩

lemma Runs.prepare (h : Runs lib env path c s) :
    ∃ events, CommandLine.prepare lib env path = .ok ⟨c, s, events⟩ := by
  obtain ⟨hconfig, text, htext, hload⟩ := h
  rw [CommandLine.prepare, hconfig.configuration_eq, htext]
  simp only [Program.ofFile, hload]
  exact ⟨_, rfl⟩

lemma reportsRefusal_refuse (env : Environment) (e : BuildError) (events : List Event) :
    ReportsRefusal e (refuse env ⟨e, events⟩) where
  code := rfl
  stdout := rfl
  stderr := ⟨_, endsLine_logText env.filter events, rfl⟩

lemma endsWith_closing (filter : LogFilter) (events : List Event) (c : Config) (m : Machine)
    (seconds : String) (result : Except Fault Exit) :
    EndsWith (logText filter events ++ closing c m seconds result) (verdict m result) := by
  refine ⟨logText filter events ++ if c.tracing then m.statistics.report seconds else "", ?_, ?_⟩
  · refine (endsLine_logText filter events).append ?_
    split
    · exact endsLine_report m.statistics seconds
    · exact Or.inl rfl
  · rw [closing, String.append_assoc]

/-- A run that ends is answered with a report of how it ended. -/
lemma runJob_of_run (hrun : s.run budget = (some result, s')) (events : List Event) :
    ∃ r, runJob budget env seconds ⟨c, s, events⟩ = some r ∧ ReportsRun s'.machine result r := by
  have hends := endsWith_closing env.filter (events ++ s'.machine.journal.toList) c s'.machine
    seconds result
  rw [runJob, hrun]
  refine ⟨_, rfl, rfl, ?_, ?_, ?_⟩
  · rintro rfl
    rfl
  · rintro rfl
    exact ⟨rfl, hends⟩
  · rintro fault rfl
    exact ⟨rfl, hends⟩

lemma reportsRun_of_runJob {events : List Event}
    (h : runJob budget env seconds ⟨c, s, events⟩ = some r) :
    ∃ result s', s.run budget = (some result, s') ∧ ReportsRun s'.machine result r := by
  cases hrun : s.run budget with
  | mk ended s' =>
    cases ended with
    | none =>
      rw [runJob, hrun] at h
      cases h
    | some result =>
      obtain ⟨answer, hanswer, hreports⟩ := runJob_of_run hrun events
      obtain rfl := Option.some.inj (h.symm.trans hanswer)
      exact ⟨result, s', rfl, hreports⟩

/-- Only a halt is reported as a success. -/
lemma ReportsRun.code_eq_zero_iff {m : Machine} (h : ReportsRun m result r) :
    r.code = 0 ↔ result = .ok .halted := by
  refine ⟨fun hzero => ?_, h.halted⟩
  match result with
  | .ok .halted => rfl
  | .ok .tickLimit => exact absurd (hzero.symm.trans (h.tickLimit rfl).1) (by decide)
  | .error fault => exact absurd (hzero.symm.trans (h.faulted fault rfl).1) (by decide)

lemma ReportsRun.code_eq_one {m : Machine} (h : ReportsRun m result r) (hne : r.code ≠ 0) :
    r.code = 1 := by
  match result with
  | .ok .halted => exact absurd (h.halted rfl) hne
  | .ok .tickLimit => exact (h.tickLimit rfl).1
  | .error fault => exact (h.faulted fault rfl).1

/-- Only the file that is set bears on the configuration. -/
lemma Configures.withContents {answer : Except ConfigError Config}
    (h : Configures lib env answer) {contents : String → Except ReadFailure String}
    (hsame : ∀ name, env.configPath = some name → contents name = env.contents name) :
    Configures lib { env with contents } answer := by
  cases h with
  | defaults hpath => exact .defaults hpath
  | unreadable hpath h => exact .unreadable hpath ((hsame _ hpath).trans h)
  | text hpath h => exact .text hpath ((hsame _ hpath).trans h)

section

variable (hlib : lib.ReadsNames) (hpath : NamesFile env.arguments path)
include hlib hpath

lemma invoke_of_error {e : Refusal} (h : prepare lib env path = .error e) :
    invoke lib budget env seconds = some (refuse env e) := by
  simp only [invoke, hlib hpath, h]

lemma invoke_of_ok {job : Job} (h : prepare lib env path = .ok job) :
    invoke lib budget env seconds = runJob budget env seconds job := by
  simp only [invoke, hlib hpath, h]

/-- An answer that has been given does not depend on the budget. -/
lemma invoke_add (h : invoke lib budget env seconds = some r) (more : Nat) :
    invoke lib (budget + more) env seconds = some r := by
  cases hprepare : prepare lib env path with
  | error e =>
    rw [invoke_of_error hlib hpath hprepare] at h ⊢
    exact h
  | ok job =>
    rw [invoke_of_ok hlib hpath hprepare] at h ⊢
    obtain ⟨result, s', hrun, -⟩ := reportsRun_of_runJob h
    rw [runJob, hrun] at h
    rw [runJob, Simulator.run_add hrun more]
    exact h

/-- Without a configuration that is accepted the program file is not looked at. -/
lemma invoke_of_refused_configuration {e : ConfigError} (h : Configures lib env (.error e))
    {contents : String → Except ReadFailure String}
    (hcontents : ∀ name, env.configPath = some name → contents name = env.contents name) :
    invoke lib budget { env with contents } seconds = invoke lib budget env seconds := by
  have hprepare : prepare lib env path = .error ⟨.config e, []⟩ := by
    simp only [prepare, h.configuration_eq]
  have hother : prepare lib { env with contents } path = .error ⟨.config e, []⟩ := by
    simp only [prepare, (h.withContents hcontents).configuration_eq]
  have hanswer : invoke lib budget { env with contents } seconds =
      some (refuse env ⟨.config e, []⟩) :=
    @invoke_of_error path lib { env with contents } budget seconds hlib hpath _ hother
  rw [hanswer, invoke_of_error hlib hpath hprepare]

/-- A refusal is answered whatever the budget is. -/
lemma invoke_of_refuses {e : BuildError} (hrefuses : Refuses lib env path e) (budget : Nat) :
    ∃ r, invoke lib budget env seconds = some r ∧ ReportsRefusal e r := by
  obtain ⟨events, hprepare⟩ := hrefuses.prepare
  exact ⟨_, invoke_of_error hlib hpath hprepare, reportsRefusal_refuse env e events⟩

/-- A run that is over after `k` ticks is answered within any budget of so many. -/
lemma invoke_of_endsAfter (hruns : Runs lib env path c s) {k : Nat}
    (hends : s.EndsAfter k result) (hbudget : k ≤ budget) :
    ∃ r s', invoke lib budget env seconds = some r ∧ s.run budget = (some result, s')
      ∧ s'.machine.output.text = s.machine.printout k ∧ ReportsRun s'.machine result r := by
  obtain ⟨events, hprepare⟩ := hruns.prepare
  obtain ⟨-, text, -, hload⟩ := hruns
  obtain ⟨-, -, rfl⟩ := Simulator.load_eq_ok_iff.1 hload
  obtain ⟨s', hrun, houtput⟩ := hends.run rfl hbudget
  obtain ⟨r, hr, hreports⟩ := runJob_of_run hrun events
  refine ⟨r, s', (invoke_of_ok hlib hpath hprepare).trans hr, hrun, ?_, hreports⟩
  rw [houtput, Machine.output_afterTicks ⟨rfl, rfl⟩]
  exact String.empty_append

/-- An answer means that the run is over. -/
lemma endsAfter_of_invoke (hruns : Runs lib env path c s)
    (h : invoke lib budget env seconds = some r) :
    ∃ k result, k ≤ budget ∧ s.EndsAfter k result := by
  obtain ⟨events, hprepare⟩ := hruns.prepare
  rw [invoke_of_ok hlib hpath hprepare] at h
  obtain ⟨result, s', hrun, -⟩ := reportsRun_of_runJob h
  obtain ⟨-, text, -, hload⟩ := hruns
  obtain ⟨-, -, rfl⟩ := Simulator.load_eq_ok_iff.1 hload
  have hidle : (Machine.loaded (Program.parse text).bytes c .unlimited).phase ≠ .halted := by
    intro hhalted
    cases hhalted
  obtain ⟨k, hk, hends⟩ := Simulator.endsAfter_of_run rfl hidle hrun
  exact ⟨k, result, hk, hends⟩

end

lemma HaltsInTime.endsAfter (h : HaltsInTime lib env path) :
    ∃ c s last, Runs lib env path c s ∧ s.EndsAfter (last + 1) (.ok .halted) := by
  obtain ⟨c, text, s, last, hconfig, htext, -, hload, hat, hhalt, hroom⟩ := h
  obtain ⟨-, -, hs⟩ := Simulator.load_eq_ok_iff.1 hload
  have hlimit : s.maxTicks = c.maxTicks := congrArg Simulator.maxTicks hs
  exact ⟨c, s, last, ⟨hconfig, text, htext, hload⟩, .halted hat hhalt (hlimit ▸ hroom)⟩

lemma Refuses.not_haltsInTime {e : BuildError} (h : Refuses lib env path e) :
    ¬ HaltsInTime lib env path := by
  rintro ⟨c, text, s, last, hconfig, htext, hfits, -⟩
  cases h with
  | config h => cases hconfig.unique h
  | unreadable _ h =>
    rw [h] at htext
    cases htext
  | tooLong hconfig' htext' hlong =>
    obtain rfl := Except.ok.inj (hconfig.unique hconfig')
    obtain rfl := Except.ok.inj (htext.symm.trans htext')
    exact absurd hfits (Nat.not_le.2 hlong)

lemma Runs.haltsInTime_iff (h : Runs lib env path c s) {k : Nat} (hends : s.EndsAfter k result) :
    HaltsInTime lib env path ↔ result = .ok .halted := by
  obtain ⟨hconfig, text, htext, hload⟩ := h
  obtain ⟨-, hfits, hs⟩ := Simulator.load_eq_ok_iff.1 hload
  have hlimit : s.maxTicks = c.maxTicks := congrArg Simulator.maxTicks hs
  rw [hends.eq_halted_iff, hlimit]
  constructor
  · rintro ⟨c', text', s₁, last, hconfig', htext', -, hload', hhalts⟩
    obtain rfl := Except.ok.inj (hconfig.unique hconfig')
    obtain rfl := Except.ok.inj (htext.symm.trans htext')
    obtain rfl := Except.ok.inj (hload.symm.trans hload')
    exact ⟨last, hhalts⟩
  · rintro ⟨last, hhalts⟩
    exact ⟨c, text, s, last, hconfig, htext, hfits, hload, hhalts⟩

/-- The exit code says whether the program halted in time. -/
lemma code_of_invoke (hlib : lib.ReadsNames) (hpath : NamesFile env.arguments path)
    (h : invoke lib budget env seconds = some r) :
    (r.code = 0 ↔ HaltsInTime lib env path) ∧ (r.code ≠ 0 → r.code = 1) := by
  rcases refuses_or_runs lib env path with ⟨e, hrefuses⟩ | ⟨c, s, hruns⟩
  · obtain ⟨answer, hanswer, hreports⟩ :=
      @invoke_of_refuses path lib env seconds hlib hpath e hrefuses budget
    obtain rfl := Option.some.inj (h.symm.trans hanswer)
    have hzero : r.code ≠ 0 := by
      rw [hreports.code]
      decide
    exact ⟨iff_of_false hzero hrefuses.not_haltsInTime, fun _ => hreports.code⟩
  · obtain ⟨k, result, hk, hends⟩ := endsAfter_of_invoke hlib hpath hruns h
    obtain ⟨answer, s', hanswer, -, -, hreports⟩ :=
      @invoke_of_endsAfter path lib env c s result budget seconds hlib hpath hruns k hends hk
    obtain rfl := Option.some.inj (h.symm.trans hanswer)
    exact ⟨hreports.code_eq_zero_iff.trans (hruns.haltsInTime_iff hends).symm,
      hreports.code_eq_one⟩

/-- **The command line is a faithful front end.**  Given one file, either there is no machine to
run, and then whatever the budget is nothing is printed and standard error ends with the cause.  Or
there is one, and then an answer within some budget means that its run is over within that budget,
and a run that is over after some ticks is answered within any budget of so many: standard output is
what the program printed, however the run ended, and standard error ends with the fault or the limit
that ended it and the state of the machine.

The exit code is zero if the configuration is accepted, the file is a text whose program fits into
memory and the program carries out a halt on a tick that the limit allows, and one otherwise.  A
configuration that is refused is refused whatever is in the program file. -/
theorem invoke_is_faithful (hlib : lib.ReadsNames) (hpath : NamesFile env.arguments path) :
    ((∃ e, Refuses lib env path e) ∨ ∃ c s, Runs lib env path c s)
      ∧ (∀ e, Refuses lib env path e → ∀ budget, ∃ r, invoke lib budget env seconds = some r
          ∧ ReportsRefusal e r)
      ∧ (∀ c s, Runs lib env path c s →
          (∀ budget r, invoke lib budget env seconds = some r →
            ∃ k result, k ≤ budget ∧ s.EndsAfter k result)
          ∧ ∀ k result, s.EndsAfter k result → ∀ budget, k ≤ budget →
            ∃ r s', invoke lib budget env seconds = some r ∧ s.run budget = (some result, s')
              ∧ s'.machine.output.text = s.machine.printout k ∧ ReportsRun s'.machine result r)
      ∧ (HaltsInTime lib env path → ∃ n, ∀ budget, n ≤ budget →
          ∃ r, invoke lib budget env seconds = some r ∧ r.code = 0)
      ∧ (∀ budget r, invoke lib budget env seconds = some r →
          (r.code = 0 ↔ HaltsInTime lib env path) ∧ (r.code ≠ 0 → r.code = 1)
            ∧ ∀ more, invoke lib (budget + more) env seconds = some r)
      ∧ ∀ e, Configures lib env (.error e) → ∀ contents : String → Except ReadFailure String,
          (∀ name, env.configPath = some name → contents name = env.contents name) →
            ∀ budget, invoke lib budget { env with contents } seconds =
              invoke lib budget env seconds := by
  refine ⟨refuses_or_runs lib env path,
    fun e hrefuses budget => invoke_of_refuses hlib hpath hrefuses budget,
    fun c s hruns => ⟨fun budget r => endsAfter_of_invoke hlib hpath hruns,
      fun k result hends budget => invoke_of_endsAfter hlib hpath hruns hends⟩,
    fun hhalts => ?_, fun budget r h => ?_,
    fun e he contents hcontents budget => invoke_of_refused_configuration hlib hpath he hcontents⟩
  · obtain ⟨c, s, last, hruns, hends⟩ := hhalts.endsAfter
    refine ⟨last + 1, fun budget hbudget => ?_⟩
    obtain ⟨r, s', hr, -, -, hreports⟩ := invoke_of_endsAfter hlib hpath hruns hends hbudget
    exact ⟨r, hr, hreports.halted rfl⟩
  · obtain ⟨hzero, hone⟩ := code_of_invoke hlib hpath h
    exact ⟨hzero, hone, invoke_add hlib hpath h⟩

/-- Prints eight and halts. -/
def printsAndHalts : String :=
  "10011001\n00000000\n00001000\n01000011\n00000000\n00000001\n"

/-- Prints eight and comes to a byte that is no instruction. -/
def printsAndFaults : String :=
  "10011001\n00000000\n00001000\n01000011\n00000000\n11111111\n"

/-- The program is run under the defaults and nothing is logged. -/
def defaultInvocation (program : String) : Environment where
  arguments := ["program"]
  configPath := none
  filter := ⟨[]⟩
  contents _ := .ok program

/-- The configuration file that is set does not exist. -/
def unconfiguredInvocation (program : String) : Environment where
  arguments := ["program"]
  configPath := some "settings"
  filter := ⟨[]⟩
  contents name := if name = "settings" then .error .notFound else .ok program

lemma exists_answer {answer : Option Response} {code : UInt32} {stdout : String}
    (h : answer.map (fun r => (r.code, r.stdout)) = some (code, stdout)) :
    ∃ r, answer = some r ∧ r.code = code ∧ r.stdout = stdout := by
  obtain ⟨r, hr, hparts⟩ := Option.map_eq_some_iff.1 h
  exact ⟨r, hr, Prod.mk.inj hparts⟩

/-- A program that halts on its third tick is answered with zero within any budget of so many.  What
was printed before a fault is kept.  A program that would have been run is not looked at if its
configuration is missing. -/
theorem invoke_is_faithful_printsAndHalts :
    (∃ s k, Runs libraries (defaultInvocation printsAndHalts) "program" {} s
        ∧ s.EndsAfter k (.ok .halted) ∧ k ≤ 3
        ∧ HaltsInTime libraries (defaultInvocation printsAndHalts) "program"
        ∧ ∀ budget, 3 ≤ budget → ∃ r,
          invoke libraries budget (defaultInvocation printsAndHalts) "" = some r
            ∧ r.code = 0 ∧ r.stdout = "8\n")
      ∧ (∃ r, invoke libraries 3 (defaultInvocation printsAndFaults) "" = some r
        ∧ r.code = 1 ∧ r.stdout = "8\n"
        ∧ ¬ HaltsInTime libraries (defaultInvocation printsAndFaults) "program")
      ∧ ∀ budget, ∃ r,
        invoke libraries budget (unconfiguredInvocation printsAndHalts) "" = some r
          ∧ r.code = 1 ∧ r.stdout = ""
          ∧ ∀ text, invoke libraries budget (unconfiguredInvocation text) "" = some r := by
  have hnames : NamesFile ["program"] "program" := .alone (by decide) (by decide)
  refine ⟨?_, ?_, fun budget => ?_⟩
  · obtain ⟨-, -, hended, -, hanswered, -⟩ := @invoke_is_faithful "program" libraries
      (defaultInvocation printsAndHalts) "" readsNames_libraries hnames
    obtain ⟨r, hr, hcode, hstdout⟩ : ∃ r,
        invoke libraries 3 (defaultInvocation printsAndHalts) "" = some r
          ∧ r.code = 0 ∧ r.stdout = "8\n" :=
      exists_answer (by decide +kernel)
    obtain ⟨s, hruns⟩ : ∃ s, Runs libraries (defaultInvocation printsAndHalts) "program" {} s :=
      ⟨_, .defaults rfl, _, rfl, Simulator.load_eq_ok_iff.2
        ⟨(Config.validate_eq_ok_iff _).1 rfl, by decide +kernel, rfl⟩⟩
    obtain ⟨hzero, -, hmore⟩ := hanswered 3 r hr
    obtain ⟨k, result, hk, hends⟩ := (hended {} s hruns).1 3 r hr
    obtain rfl := (hruns.haltsInTime_iff hends).1 (hzero.1 hcode)
    refine ⟨s, k, hruns, hends, hk, hzero.1 hcode, fun budget hbudget => ?_⟩
    obtain ⟨more, rfl⟩ := Nat.exists_eq_add_of_le hbudget
    exact ⟨r, hmore more, hcode, hstdout⟩
  · obtain ⟨-, -, -, -, hanswered, -⟩ := @invoke_is_faithful "program" libraries
      (defaultInvocation printsAndFaults) "" readsNames_libraries hnames
    obtain ⟨r, hr, hcode, hstdout⟩ : ∃ r,
        invoke libraries 3 (defaultInvocation printsAndFaults) "" = some r
          ∧ r.code = 1 ∧ r.stdout = "8\n" :=
      exists_answer (by decide +kernel)
    refine ⟨r, hr, hcode, hstdout, fun hhalts => ?_⟩
    exact absurd (((hanswered 3 r hr).1.2 hhalts).symm.trans hcode) (by decide)
  · obtain ⟨-, hrefused, -, -, -, hunread⟩ := @invoke_is_faithful "program" libraries
      (unconfiguredInvocation printsAndHalts) "" readsNames_libraries hnames
    have hconfig : Configures libraries (unconfiguredInvocation printsAndHalts)
        (.error (.unreadable "settings" .notFound)) := .unreadable rfl rfl
    obtain ⟨r, hr, hreports⟩ := hrefused _ (.config hconfig) budget
    refine ⟨r, hr, hreports.code, hreports.stdout, fun text => ?_⟩
    refine (hunread _ hconfig (unconfiguredInvocation text).contents ?_ budget).trans hr
    intro name hname
    obtain rfl := Option.some.inj hname
    rfl

end CommandLine

end LS8
