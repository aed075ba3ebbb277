import LintRunner.Proofs.Cli.Output
import LintRunner.Proofs.Config.Registry
import LintRunner.Proofs.Run.Agreement
import LintRunner.Proofs.Run.Policies

/-!
# Lint runs of sessions

How a lint run exits and what it writes to its output, in the modes whose output is read by programs.
The errors are counted from the events of the run (`Setup.run_errorTotal`), the diagnostics are written
from its cursor; both belong to the same run. `LintRequest.Settles` says what a session makes of a run, and
`LintRequest.run_settles` that it does so, whatever is said on the error output.
-/

set_option autoImplicit false

namespace LintRunner

open Text

/-! ## Counting errors -/

namespace Cli

theorem errorTotal_from (n : Nat) (events : List Event) :
    events.foldl (fun n event => n + errorsOf event) n = n + errorTotal events := by
  induction events generalizing n with
  | nil => rfl
  | cons event events ih =>
      rw [errorTotal, List.foldl_cons, List.foldl_cons, ih, ih (0 + errorsOf event)]
      omega

theorem errorTotal_append (a b : List Event) :
    errorTotal (a ++ b) = errorTotal a + errorTotal b := by
  rw [errorTotal, List.foldl_append, errorTotal_from]
  rfl

end Cli

namespace Setup

open Cli

variable (setup : Setup)

/-- The events of an adapter report the errors of its outcome. -/
theorem attempt_errorTotal (target : Option String) (history : List (List String)) (adapter : Adapter) :
    errorTotal (setup.attempt target history adapter).events =
      match (setup.attempt target history adapter).result with
      | .ok outcome => Diagnostic.errorCount outcome.diagnostics
      | .error _ => 0 := by
  have htries := setup.attempt_tries target history adapter
  generalize setup.attempt target history adapter = attempt at htries ⊢
  cases htries with
  | unbuilt => rfl
  | uncompiled => rfl
  | aborted => rfl
  | skipped _ _ _ _ _ noted =>
      subst noted
      rfl
  | unread => rfl
  | executed _ _ _ _ noted =>
      subst noted
      simp [errorTotal, errorsOf]

/-- **The events of a run report the errors among its diagnostics.** -/
theorem runFrom_errorTotal (target : Option String) (history : List (List String))
    (adapters : List Adapter) :
    errorTotal (setup.runFrom target history adapters).events =
      Diagnostic.errorCount (setup.runFrom target history adapters).diagnostics := by
  induction adapters generalizing history with
  | nil => rfl
  | cons adapter rest ih =>
      have hattempt := setup.attempt_errorTotal target history adapter
      cases hresult : (setup.attempt target history adapter).result with
      | error failure =>
          -- an adapter that fails has reported nothing, and the run ends with it
          rw [hresult] at hattempt
          rw [runFrom_failure hresult]
          exact hattempt
      | ok outcome =>
          rw [hresult] at hattempt
          rw [runFrom_outcome hresult rfl]
          simp only [errorTotal_append, hattempt, ih]
          rw [Run.diagnostics, Run.diagnostics, List.flatMap_cons, Diagnostic.errorCount,
            Diagnostic.errorCount, Diagnostic.errorCount, List.countP_append]

theorem run_errorTotal (history : List (List String)) (language : String) (target : Option String) :
    errorTotal (setup.run history language target).events =
      Diagnostic.errorCount (setup.run history language target).diagnostics := by
  rw [run]
  split
  · rfl
  · exact setup.runFrom_errorTotal target history _

/-! ## Failures of runs -/

/-- A run comes to an adapter that needs a target, and there is none. -/
def LacksTarget (language : String) (target : Option String) : Prop :=
  target = none ∧ ∃ adapters adapter i, setup.registry.adaptersFor language = .ok adapters ∧
    adapters[i]? = some adapter ∧ adapter.requiresTarget = true ∧
    i ≤ (setup.run [] language target).outcomes.length

variable {setup}

/-- Why an adapter fails whose format can be compiled and whose matcher has an answer for every line. -/
theorem attempt_error {target : Option String} {history : List (List String)} {adapter : Adapter}
    {failure : Failure} (hcompiled : ∃ matcher, adapter.format.compile = .ok matcher)
    (hreadable : ∀ matcher, adapter.format.compile = .ok matcher →
      ∀ line, ∃ found, matcher.apply line = .ok found)
    (h : (setup.attempt target history adapter).result = .error failure) :
    (failure = .targetRequired adapter.name ∧ adapter.requiresTarget = true ∧ target = none) ∨
      setup.policy = .abort ∧ ∃ executable reason, failure = .toolNotStarted executable reason := by
  obtain hfails | hother := setup.attempt_failure h
  · exfalso
    cases hfails with
    | uncompiled compiled =>
        obtain ⟨matcher, hmatcher⟩ := hcompiled
        cases hmatcher.symm.trans compiled
    | unread compiled read =>
        -- there is an answer for every line, so lines can always be read
        obtain ⟨diagnostics, hlines⟩ := exists_readLines adapter.name (hreadable _ compiled) _
        cases read.symm.trans hlines
  · exact hother

/-- **Why a run fails:** its language is not listed, or an adapter lacks its target, or a tool cannot be
started and the policy is to abort. -/
theorem run_failure (hregistry : setup.registry.WellFormed) (hreadable : setup.registry.Readable)
    {language : String} {target : Option String} {failure : Failure}
    (h : (setup.run [] language target).failure = some failure) :
    (failure = .unsupportedLanguage language ∧ setup.registry.supports language = false) ∨
      ((∃ name, failure = .targetRequired name) ∧ setup.LacksTarget language target) ∨
      setup.policy = .abort ∧ ∃ executable reason, failure = .toolNotStarted executable reason := by
  cases hadapters : setup.registry.adaptersFor language with
  | error failure' =>
      -- the names that a language lists are known, so the language itself is not
      rw [run_of_no_adapters hadapters] at h
      obtain rfl := Option.some.inj h
      obtain rfl := hregistry.adaptersFor_error hadapters
      refine Or.inl ⟨rfl, Bool.eq_false_iff.mpr fun hsupports => ?_⟩
      obtain ⟨name, hname⟩ := Registry.adaptersFor_error_of_supports hsupports hadapters
      cases hname
  | ok adapters =>
      have hrun := run_of_adapters hadapters [] target
      rw [hrun] at h
      obtain ⟨adapter, history, hadapter, herror⟩ := setup.exists_attempt_of_failure h
      rw [← hrun] at hadapter
      have hmem : adapter ∈ setup.registry.adapters :=
        Registry.mem_of_adaptersFor hadapters adapter (List.mem_of_getElem? hadapter)
      obtain ⟨rfl, hrequires, rfl⟩ | hrefused :=
        attempt_error (hregistry.compiled adapter hmem) (hreadable adapter hmem) herror
      · refine Or.inr (Or.inl ⟨⟨_, rfl⟩, rfl, adapters, adapter, _, hadapters, hadapter, hrequires, ?_⟩)
        exact Nat.le_refl _
      · exact Or.inr (Or.inr hrefused)

theorem run_of_unsupported {history : List (List String)} {language : String} {target : Option String}
    (h : setup.registry.supports language = false) :
    setup.run history language target =
      { events := [], outcomes := [], failure := some (.unsupportedLanguage language) } := by
  rw [Registry.supports, Option.isSome_eq_false_iff, Option.isNone_iff_eq_none] at h
  rw [run, Registry.adaptersFor, h]

theorem exists_failure_of_lacksTarget {language : String} {target : Option String}
    (h : setup.LacksTarget language target) :
    ∃ name, (setup.run [] language target).failure = some (.targetRequired name) := by
  obtain ⟨rfl, adapters, adapter, i, hadapters, hadapter, hrequires, hreached⟩ := h
  rw [run_of_adapters hadapters] at hreached ⊢
  exact ⟨_, (setup.runFrom_targetRequired [] hadapter hrequires hreached).2.2⟩

end Setup

/-! ## Sessions -/

namespace Cli.LintRequest

variable {r : LintRequest} {s : Surroundings}

def place (r : LintRequest) : Option String := r.target.map Path.text

/-- What a session makes of the run of a language: its status says how the run ended and whether it found
errors, and its output holds the diagnostics of the adapters that were completed. -/
structure Settles (r : LintRequest) (setup : Setup) (language : String) (t : Transcript) : Prop where
  exits : ∃ status, t.ending = .exited status
  usage : t.ending = .exited .usage ↔
    setup.registry.supports language = false ∨ setup.LacksTarget language r.place
  toolFailure : t.ending = .exited .toolFailure ↔ ∃ executable reason,
    (setup.run [] language r.place).failure = some (.toolNotStarted executable reason)
  diagnosticErrors : t.ending = .exited .diagnosticErrors ↔
    (setup.run [] language r.place).failure = none ∧
      ∃ d ∈ (setup.run [] language r.place).diagnostics, d.isError = true
  ok : t.ending = .exited .ok ↔ (setup.run [] language r.place).failure = none ∧
    ∀ d ∈ (setup.run [] language r.place).diagnostics, d.isError = false
  text : r.output = .text →
    t.stdout = joined ((setup.run [] language r.place).diagnostics.map fun d => echo d.asLine)
  plain : r.output = .text →
    (∀ d ∈ (setup.run [] language r.place).diagnostics, '\x1b' ∉ d.asLine.toList) →
    t.stdout = joined ((setup.run [] language r.place).diagnostics.map fun d => d.asLine ++ "\n")
  json : r.output = .json →
    match (setup.run [] language r.place).failure with
    | none => ∃ text, Listing.json (setup.run [] language r.place).diagnostics = .ok text ∧
        t.stdout = text ++ "\n"
    | some _ => t.stdout = ""

/-! ### What is written -/

/-- Single lines are those of the diagnostics, whether the run fails or not. -/
theorem write_text (houtput : r.output = .text) (s : Surroundings) (setup : Setup) (language : String) :
    r.write s setup language =
      { stdout := joined ((setup.run [] language r.place).diagnostics.map fun d => echo d.asLine)
        events := (setup.run [] language r.place).events
        failure := (setup.run [] language r.place).failure } := by
  have hstream := setup.stream_eq_run [] language (r.target.map Path.text)
  rw [write, houtput, place]
  simp only [hstream, List.map_map, Function.comp_def]
  cases (setup.run [] language (r.target.map Path.text)).failure <;> rfl

def listed (r : LintRequest) (s : Surroundings) (run : Run) : String × Option Failure :=
  match run.failure with
  | some failure => ("", some failure)
  | none =>
      if r.output = .json then echoed (Listing.json run.diagnostics)
      else Listing.pretty s.printer run.diagnostics

theorem write_listing (houtput : r.output ≠ .text) (s : Surroundings) (setup : Setup) (language : String) :
    r.write s setup language =
      { stdout := (r.listed s (setup.run [] language r.place)).1
        events := (setup.run [] language r.place).events
        failure := (r.listed s (setup.run [] language r.place)).2 } := by
  have hlint := setup.lint_eq_run [] language r.place
  rw [place] at hlint
  rw [write]
  split
  · rename_i htext
    exact absurd htext houtput
  · simp only [hlint]
    rfl

theorem write_events (r : LintRequest) (s : Surroundings) (setup : Setup) (language : String) :
    (r.write s setup language).events = (setup.run [] language r.place).events := by
  by_cases houtput : r.output = .text
  · rw [write_text houtput]
  · rw [write_listing houtput]

/-- The document of a run that has not failed. -/
theorem listed_json (houtput : r.output = .json) {setup : Setup} {language : String}
    (hnone : (setup.run [] language r.place).failure = none) :
    ∃ text, Listing.json (setup.run [] language r.place).diagnostics = .ok text ∧
      r.listed s (setup.run [] language r.place) = (text ++ "\n", none) := by
  have hwritable : ∀ d ∈ (setup.run [] language r.place).diagnostics, d.isWritable = true :=
    Setup.isWritable_of_mem_diagnostics
  obtain ⟨text, hjson, hechoed⟩ := echoed_json hwritable
  refine ⟨text, hjson, ?_⟩
  rw [listed, hnone]
  simp only [houtput, if_true]
  exact hechoed

/-- Outside the tables a failure is what ends the run. -/
theorem write_failure (houtput : r.output ≠ .pretty) (s : Surroundings) (setup : Setup)
    (language : String) :
    (r.write s setup language).failure = (setup.run [] language r.place).failure := by
  cases hmode : r.output with
  | text => rw [write_text hmode]
  | json =>
      rw [write_listing (by rw [hmode]; decide)]
      cases hfailure : (setup.run [] language r.place).failure with
      | some failure => simp only [listed, hfailure]
      | none =>
          obtain ⟨text, -, hlisted⟩ := listed_json (s := s) hmode hfailure
          rw [hlisted]
  | pretty => exact absurd hmode houtput

/-! ### How a session ends -/

/-- What a session does once it has its setup and its language. -/
theorem run_of_prepare {setup : Setup} {language : String} (h : r.prepare s = .ok (setup, language)) :
    (r.run s).stdout = (r.write s setup language).stdout ∧ (r.run s).ending =
      match (r.write s setup language).failure with
      | some failure => (r.stop failure).2
      | none =>
          (r.finish language (Diagnostic.errorCount (setup.run [] language r.place).diagnostics)).2 := by
  have hcount : errorTotal (r.write s setup language).events =
      Diagnostic.errorCount (setup.run [] language r.place).diagnostics := by
    rw [write_events]
    exact setup.run_errorTotal [] language r.place
  rw [LintRequest.run, h]
  refine ⟨rfl, ?_⟩
  simp only [hcount]
  cases (r.write s setup language).failure <;> rfl

def endingOf (r : LintRequest) (language : String) (run : Run) : Ending :=
  match run.failure with
  | some failure => (r.stop failure).2
  | none => (r.finish language (Diagnostic.errorCount run.diagnostics)).2

theorem ended_of_prepare {setup : Setup} {language : String} (houtput : r.output ≠ .pretty)
    (h : r.prepare s = .ok (setup, language)) :
    (r.run s).ending = r.endingOf language (setup.run [] language r.place) := by
  obtain ⟨-, hending⟩ := run_of_prepare h
  rw [write_failure houtput] at hending
  exact hending

theorem text_stdout {setup : Setup} {language : String} (houtput : r.output = .text)
    (h : r.prepare s = .ok (setup, language)) :
    (r.run s).stdout =
      joined ((setup.run [] language r.place).diagnostics.map fun d => echo d.asLine) := by
  obtain ⟨hstdout, -⟩ := run_of_prepare h
  rw [hstdout, write_text houtput]

/-- Lines without escapes are written as they are. -/
theorem plain_stdout {setup : Setup} {language : String} (houtput : r.output = .text)
    (hplain : ∀ d ∈ (setup.run [] language r.place).diagnostics, '\x1b' ∉ d.asLine.toList)
    (h : r.prepare s = .ok (setup, language)) :
    (r.run s).stdout =
      joined ((setup.run [] language r.place).diagnostics.map fun d => d.asLine ++ "\n") := by
  rw [text_stdout houtput h]
  exact congrArg joined (List.map_congr_left fun d hd => echo_of_not_mem (hplain d hd))

theorem json_stdout {setup : Setup} {language : String} (houtput : r.output = .json)
    (h : r.prepare s = .ok (setup, language)) :
    match (setup.run [] language r.place).failure with
    | none => ∃ text, Listing.json (setup.run [] language r.place).diagnostics = .ok text ∧
        (r.run s).stdout = text ++ "\n"
    | some _ => (r.run s).stdout = "" := by
  obtain ⟨hstdout, -⟩ := run_of_prepare h
  rw [write_listing (by rw [houtput]; decide)] at hstdout
  cases hfailure : (setup.run [] language r.place).failure with
  | none =>
      obtain ⟨text, hjson, hlisted⟩ := listed_json (s := s) houtput hfailure
      exact ⟨text, hjson, by rw [hstdout, hlisted]⟩
  | some failure =>
      show (r.run s).stdout = ""
      rw [hstdout, listed, hfailure]

/-! ## Statuses -/

/-- The status for a run: what its failure is, or else whether it found errors. -/
def statusOf (failure : Option Failure) (ds : List Diagnostic) : Exit :=
  match failure with
  | some failure => if failure.isRefusal then .toolFailure else .usage
  | none => if ds.any Diagnostic.isError then .diagnosticErrors else .ok

section

variable {failure : Option Failure} {ds : List Diagnostic}

theorem statusOf_eq_toolFailure : statusOf failure ds = .toolFailure ↔
    ∃ executable reason, failure = some (.toolNotStarted executable reason) := by
  cases failure with
  | none =>
      rw [statusOf]
      constructor
      · intro h
        split at h <;> cases h
      · rintro ⟨_, _, h⟩
        cases h
  | some failure =>
      cases failure with
      | toolNotStarted executable reason => exact ⟨fun _ => ⟨executable, reason, rfl⟩, fun _ => rfl⟩
      | _ => exact ⟨fun h => (by cases h), fun ⟨_, _, h⟩ => (by cases h)⟩

theorem statusOf_eq_usage : statusOf failure ds = .usage ↔
    ∃ refused, failure = some refused ∧ refused.isRefusal = false := by
  cases failure with
  | none =>
      rw [statusOf]
      constructor
      · intro h
        split at h <;> cases h
      · rintro ⟨_, h, -⟩
        cases h
  | some failure =>
      rw [statusOf]
      by_cases hrefusal : failure.isRefusal = true
      · rw [if_pos hrefusal]
        refine ⟨fun h => (by cases h), fun ⟨refused, h, hnot⟩ => ?_⟩
        rw [← Option.some.inj h, hrefusal] at hnot
        cases hnot
      · rw [if_neg hrefusal]
        exact ⟨fun _ => ⟨failure, rfl, Bool.eq_false_iff.mpr hrefusal⟩, fun _ => rfl⟩

theorem statusOf_some_ne (refused : Failure) :
    statusOf (some refused) ds ≠ .diagnosticErrors ∧ statusOf (some refused) ds ≠ .ok := by
  rw [statusOf]
  split <;> exact ⟨fun h => (by cases h), fun h => (by cases h)⟩

theorem statusOf_eq_diagnosticErrors : statusOf failure ds = .diagnosticErrors ↔
    failure = none ∧ ∃ d ∈ ds, d.isError = true := by
  cases failure with
  | none =>
      rw [statusOf, ← List.any_eq_true]
      by_cases herrors : ds.any Diagnostic.isError = true
      · rw [if_pos herrors]
        exact ⟨fun _ => ⟨rfl, herrors⟩, fun _ => rfl⟩
      · rw [if_neg herrors]
        exact ⟨fun h => (by cases h), fun h => absurd h.2 herrors⟩
  | some refused => exact ⟨fun h => absurd h (statusOf_some_ne refused).1, fun h => (by cases h.1)⟩

theorem statusOf_eq_ok : statusOf failure ds = .ok ↔
    failure = none ∧ ∀ d ∈ ds, d.isError = false := by
  cases failure with
  | none =>
      have hnone : (∀ d ∈ ds, d.isError = false) ↔ ¬ ds.any Diagnostic.isError = true := by
        simp
      rw [statusOf, hnone]
      by_cases herrors : ds.any Diagnostic.isError = true
      · rw [if_pos herrors]
        exact ⟨fun h => (by cases h), fun h => absurd herrors h.2⟩
      · rw [if_neg herrors]
        exact ⟨fun _ => ⟨rfl, herrors⟩, fun _ => rfl⟩
  | some refused => exact ⟨fun h => absurd h (statusOf_some_ne refused).2, fun h => (by cases h.1)⟩

end

/-- A run without a failure exits with a status that says whether it found errors. -/
theorem finish_eq (language : String) (ds : List Diagnostic) :
    (r.finish language (Diagnostic.errorCount ds)).2 = .exited (statusOf none ds) := by
  rw [finish, Diagnostic.errorCount, statusOf]
  by_cases herrors : 0 < ds.countP Diagnostic.isError
  · rw [if_pos herrors, if_pos (List.any_eq_true.mpr (List.countP_pos_iff.mp herrors))]
  · rw [if_neg herrors, if_neg fun hany => herrors (List.countP_pos_iff.mpr (List.any_eq_true.mp hany))]

theorem ending_of_prepare {setup : Setup} {language : String} (hregistry : setup.registry.WellFormed)
    (hreadable : setup.registry.Readable) (houtput : r.output ≠ .pretty)
    (h : r.prepare s = .ok (setup, language)) :
    (r.run s).ending = .exited (statusOf (setup.run [] language r.place).failure
      (setup.run [] language r.place).diagnostics) := by
  rw [ended_of_prepare houtput h, endingOf]
  cases hfailure : (setup.run [] language r.place).failure with
  | none => exact finish_eq language _
  | some failure =>
      obtain ⟨rfl, -⟩ | ⟨⟨name, rfl⟩, -⟩ | ⟨-, executable, reason, rfl⟩ :=
        Setup.run_failure hregistry hreadable hfailure <;> rfl

/-- **A prepared session settles its run.** -/
theorem settles_of_prepare {setup : Setup} {language : String} (hregistry : setup.registry.WellFormed)
    (hreadable : setup.registry.Readable) (houtput : r.output ≠ .pretty)
    (h : r.prepare s = .ok (setup, language)) : r.Settles setup language (r.run s) := by
  have hending := ending_of_prepare hregistry hreadable houtput h
  have hstatus : ∀ status, (r.run s).ending = .exited status ↔
      statusOf (setup.run [] language r.place).failure
        (setup.run [] language r.place).diagnostics = status := by
    intro status
    rw [hending]
    exact ⟨Ending.exited.inj, congrArg Ending.exited⟩
  refine ⟨⟨_, hending⟩, ?_, (hstatus _).trans statusOf_eq_toolFailure,
    (hstatus _).trans statusOf_eq_diagnosticErrors, (hstatus _).trans statusOf_eq_ok,
    fun houtput => text_stdout houtput h, fun houtput hplain => plain_stdout houtput hplain h,
    fun houtput => json_stdout houtput h⟩
  rw [hstatus, statusOf_eq_usage]
  constructor
  · rintro ⟨failure, hfailure, hrefusal⟩
    obtain ⟨-, hunsupported⟩ | ⟨-, hlacks⟩ | ⟨-, executable, reason, rfl⟩ :=
      Setup.run_failure hregistry hreadable hfailure
    · exact Or.inl hunsupported
    · exact Or.inr hlacks
    · cases hrefusal
  · rintro (hunsupported | hlacks)
    · exact ⟨_, by rw [Setup.run_of_unsupported hunsupported], rfl⟩
    · obtain ⟨name, hname⟩ := Setup.exists_failure_of_lacksTarget hlacks
      exact ⟨_, hname, rfl⟩

/-! ## Requests -/

def setup (r : LintRequest) (s : Surroundings) (config : Config) (registry : Registry) : Setup where
  registry
  policy := if r.skipMissing then .skip else config.policy
  runner := s.runner

theorem prepare_eq {config : Config} {registry : Registry} (hconfig : s.config r.config = .ok config)
    (hregistry : config.buildRegistry Catalogue.registry = .ok registry) :
    r.prepare s = r.resolve.map fun language => (r.setup s config registry, language) := by
  rw [prepare, hconfig]
  cases hlanguage : r.resolve with
  | error refusal => rfl
  | ok language =>
      simp only [orRefuse, bind, Except.bind, hregistry]
      rfl

theorem orRefuse_eq_ok {α : Type} {result : Except Failure α} {a : α} (h : orRefuse result = .ok a) :
    result = .ok a := by
  cases result with
  | ok b => exact congrArg Except.ok (Except.ok.inj h)
  | error failure => cases h

theorem orRefuse_eq_error {α : Type} {result : Except Failure α} {refusal : Refusal}
    (h : orRefuse result = .error refusal) :
    ∃ failure, refusal = .failed failure ∧ result = .error failure := by
  cases result with
  | ok a => cases h
  | error failure => exact ⟨failure, (Except.error.inj h).symm, rfl⟩

/-- What a run that has begun has gone through. -/
theorem exists_of_prepare {setup : Setup} {language : String} (h : r.prepare s = .ok (setup, language)) :
    ∃ config registry, s.config r.config = .ok config ∧ r.resolve = .ok language ∧
      config.buildRegistry Catalogue.registry = .ok registry ∧ setup = r.setup s config registry := by
  obtain ⟨config, hconfig, h⟩ := bind_eq_ok.mp h
  obtain ⟨tag, htag, h⟩ := bind_eq_ok.mp h
  obtain ⟨registry, hregistry, h⟩ := bind_eq_ok.mp h
  obtain ⟨rfl, rfl⟩ := Prod.mk.inj (Except.ok.inj h)
  exact ⟨config, registry, orRefuse_eq_ok hconfig, htag, orRefuse_eq_ok hregistry, rfl⟩

/-- A run does not begin if there is no registry or no language. -/
theorem prepare_error {refusal : Refusal} (h : r.prepare s = .error refusal) :
    r.resolve = .error refusal ∨
      ∃ failure, refusal = .failed failure ∧ s.registry r.config = .error failure := by
  rcases bind_error h with h | ⟨config, hconfig, h⟩
  · obtain ⟨failure, rfl, hfailure⟩ := orRefuse_eq_error h
    exact Or.inr ⟨failure, rfl, by rw [Surroundings.registry, hfailure]; rfl⟩
  · rcases bind_error h with h | ⟨tag, -, h⟩
    · exact Or.inl h
    · rcases bind_error h with h | ⟨registry, -, h⟩
      · obtain ⟨failure, rfl, hfailure⟩ := orRefuse_eq_error h
        exact Or.inr ⟨failure, rfl, by rw [Surroundings.registry, orRefuse_eq_ok hconfig]; exact hfailure⟩
      · cases h

/-- No language is told if there is no target or its language is not known. -/
theorem resolve_error {refusal : Refusal} (h : r.resolve = .error refusal) :
    refusal = .noTarget ∨ ∃ target, refusal = .unknownLanguage target := by
  rw [resolve] at h
  split at h
  · cases h
  · exact Or.inl (Except.error.inj h).symm
  · split at h
    · cases h
    · exact Or.inr ⟨_, (Except.error.inj h).symm⟩

theorem run_of_unresolved {refusal : Refusal} (h : r.prepare s = .error refusal)
    (hlanguage : r.resolve = .error refusal) :
    (r.run s).ending = .exited .usage ∧ (r.run s).stdout = "" := by
  rw [LintRequest.run, h]
  obtain rfl | ⟨target, rfl⟩ := resolve_error hlanguage <;> exact ⟨rfl, rfl⟩

/-- How a session ends does not depend on what it says on the error output: with a failure, with a
refusal, and after the last diagnostic. -/
theorem stop_flags (r : LintRequest) (verbose signs : Bool) (failure : Failure) :
    ({ r with verbose, signs }.stop failure).2 = (r.stop failure).2 := by
  rw [stop, stop]
  cases exitOf? failure <;> rfl

theorem refuse_flags (r : LintRequest) (verbose signs : Bool) (refusal : Refusal) :
    ({ r with verbose, signs }.refuse refusal).2 = (r.refuse refusal).2 := by
  cases refusal with
  | failed failure => exact r.stop_flags verbose signs failure
  | noTarget | unknownLanguage => rfl

theorem finish_flags (r : LintRequest) (verbose signs : Bool) (language : String) (errors : Nat) :
    ({ r with verbose, signs }.finish language errors).2 = (r.finish language errors).2 := by
  rw [finish, finish]
  split <;> rfl

/-- What is said on the error output has no influence on the output and the status. -/
theorem run_flags (r : LintRequest) (s : Surroundings) (verbose signs : Bool) :
    ({ r with verbose, signs }.run s).stdout = (r.run s).stdout ∧
      ({ r with verbose, signs }.run s).ending = (r.run s).ending := by
  cases hprepare : r.prepare s with
  | error refusal =>
      have hsame : { r with verbose, signs }.prepare s = .error refusal := hprepare
      rw [LintRequest.run, LintRequest.run, hprepare, hsame]
      exact ⟨rfl, r.refuse_flags verbose signs refusal⟩
  | ok prepared =>
      obtain ⟨setup, language⟩ := prepared
      have hsame : { r with verbose, signs }.prepare s = .ok (setup, language) := hprepare
      obtain ⟨hstdout, hending⟩ := run_of_prepare hprepare
      obtain ⟨hstdout', hending'⟩ := run_of_prepare hsame
      refine ⟨hstdout'.trans hstdout.symm, ?_⟩
      simp only [stop_flags, finish_flags] at hending'
      exact hending'.trans hending.symm

/-- **The status and the output of a lint run.** Once there is a registry whose matchers have an answer for
every line, a session exits with the status for a usage error if it cannot tell the language, and
otherwise settles the run of the language. It does not exit with the status for tools that cannot be started
if these are to be skipped. What it says on the error output has no influence. -/
theorem run_settles {config : Config} {registry : Registry} (hconfig : s.config r.config = .ok config)
    (hregistry : config.buildRegistry Catalogue.registry = .ok registry)
    (hreadable : registry.Readable) (houtput : r.output ≠ .pretty) :
    (∀ refusal, r.resolve = .error refusal →
      (r.run s).ending = .exited .usage ∧ (r.run s).stdout = "") ∧
    (∀ language, r.resolve = .ok language →
      r.Settles (r.setup s config registry) language (r.run s)) ∧
    (r.skipMissing = true ∨ config.policy = .skip → (r.run s).ending ≠ .exited .toolFailure) ∧
    ∀ verbose signs, ({ r with verbose, signs }.run s).stdout = (r.run s).stdout ∧
      ({ r with verbose, signs }.run s).ending = (r.run s).ending := by
  have hprepare := prepare_eq (r := r) hconfig hregistry
  have hwell : registry.WellFormed :=
    config.wellFormed_of_buildRegistry Catalogue.wellFormed_registry hregistry
  have hsettles : ∀ language, r.resolve = .ok language →
      r.Settles (r.setup s config registry) language (r.run s) := fun language hlanguage =>
    settles_of_prepare hwell hreadable houtput (by rw [hprepare, hlanguage]; rfl)
  have hunresolved : ∀ refusal, r.resolve = .error refusal →
      (r.run s).ending = .exited .usage ∧ (r.run s).stdout = "" := fun refusal hlanguage =>
    run_of_unresolved (by rw [hprepare, hlanguage]; rfl) hlanguage
  refine ⟨hunresolved, hsettles, fun hskip hstatus => ?_, r.run_flags s⟩
  cases hlanguage : r.resolve with
  | error refusal =>
      rw [(hunresolved refusal hlanguage).1] at hstatus
      cases hstatus
  | ok language =>
      obtain ⟨executable, reason, hfailure⟩ := (hsettles language hlanguage).toolFailure.mp hstatus
      have hpolicy : (r.setup s config registry).policy = .skip := by
        show (if r.skipMissing then Policy.skip else config.policy) = .skip
        rcases hskip with hskip | hskip
        · rw [if_pos hskip]
        · rw [hskip, ite_self]
      obtain ⟨h, -⟩ | ⟨⟨name, h⟩, -⟩ | ⟨habort, -⟩ := Setup.run_failure hwell hreadable hfailure
      · cases h
      · cases h
      · rw [hpolicy] at habort
        cases habort

end Cli.LintRequest

/-! ## A session -/

namespace Cli

/-- A directory without files, in which every tool writes the same line. -/
def Surroundings.reciting (line : String) : Surroundings where
  directory := { files := [] }
  location := "/work"
  runner := fun _ _ => .finished 1 [line]

namespace LintRequest

def ofScript : LintRequest := { target := some (Path.ofString "a.sh") }

def recited (line : String) : Run :=
  (ofScript.setup (.reciting line) {} Catalogue.registry).run [] "shell" ofScript.place

def scriptFinding (severity : Severity) (message : String) : Diagnostic where
  filename := "a.sh"
  line := 3
  column := some 1
  message := message
  severity := severity
  tool := some "shellcheck"
  line_pos := Nat.succ_pos 2

theorem ofScript_config (line : String) :
    (Surroundings.reciting line).config ofScript.config = .ok {} := rfl

theorem ofScript_resolve : ofScript.resolve = .ok "shell" := by
  decide +kernel

theorem buildRegistry_default :
    ({} : Config).buildRegistry Catalogue.registry = .ok Catalogue.registry := by
  decide +kernel

theorem ofScript_settles :
    (Surroundings.reciting "a.sh:3:1: error: no fi").config ofScript.config = .ok {} ∧
      ({} : Config).buildRegistry Catalogue.registry = .ok Catalogue.registry ∧
      Catalogue.registry.Readable ∧ ofScript.output ≠ .pretty ∧
      (ofScript.run (.reciting "a.sh:3:1: error: no fi")).ending = .exited .diagnosticErrors ∧
      (ofScript.run (.reciting "a.sh:3:1: error: no fi")).stdout = "a.sh:3:1:error:error: no fi\n" := by
  have hconfig := ofScript_config "a.sh:3:1: error: no fi"
  have houtput : ofScript.output ≠ .pretty := by decide
  obtain ⟨-, hsettles, -⟩ :=
    run_settles hconfig buildRegistry_default Catalogue.readable_registry houtput
  have hsettled := hsettles "shell" ofScript_resolve
  have hfailure : (recited "a.sh:3:1: error: no fi").failure = none := by decide +kernel
  have hfound : (recited "a.sh:3:1: error: no fi").diagnostics = [scriptFinding .error "error: no fi"] := by
    decide +kernel
  have hexits := hsettled.diagnosticErrors.mpr ⟨hfailure, _, hfound ▸ List.mem_singleton_self _, rfl⟩
  have hstdout : (ofScript.run (.reciting "a.sh:3:1: error: no fi")).stdout =
      joined ((recited "a.sh:3:1: error: no fi").diagnostics.map fun d => echo d.asLine) :=
    hsettled.text rfl
  rw [hfound] at hstdout
  exact ⟨hconfig, buildRegistry_default, Catalogue.readable_registry, houtput, hexits,
    hstdout.trans (by decide +kernel)⟩

/-- A line that holds a control sequence is not written as it is. -/
theorem lines_not_verbatim :
    ¬ ∀ (r : LintRequest) (s : Surroundings) (config : Config) (registry : Registry) (language : String),
      s.config r.config = .ok config → config.buildRegistry Catalogue.registry = .ok registry →
      registry.Readable → r.output = .text → r.resolve = .ok language →
      (r.run s).ending = .exited .ok →
      (r.run s).stdout = joined (((r.setup s config registry).run [] language r.place).diagnostics.map
        fun d => d.asLine ++ "\n") := by
  intro h
  have hprepare : ofScript.prepare (.reciting "a.sh:3:1: note: \x1b[1mx") =
      .ok (ofScript.setup (.reciting "a.sh:3:1: note: \x1b[1mx") {} Catalogue.registry, "shell") := by
    rw [prepare_eq (ofScript_config _) buildRegistry_default, ofScript_resolve]
    rfl
  have hsettled := settles_of_prepare Catalogue.wellFormed_registry Catalogue.readable_registry
    (by decide) hprepare
  have hfailure : (recited "a.sh:3:1: note: \x1b[1mx").failure = none := by decide +kernel
  have hfound : (recited "a.sh:3:1: note: \x1b[1mx").diagnostics =
      [scriptFinding .info "note: \x1b[1mx"] := by
    decide +kernel
  have hexits := hsettled.ok.mpr ⟨hfailure, fun d hd => by
    obtain rfl := List.mem_singleton.mp (hfound ▸ hd)
    rfl⟩
  have hverbatim : joined ((recited "a.sh:3:1: note: \x1b[1mx").diagnostics.map fun d => echo d.asLine) =
      joined ((recited "a.sh:3:1: note: \x1b[1mx").diagnostics.map fun d => d.asLine ++ "\n") :=
    (hsettled.text rfl).symm.trans (h ofScript _ {} Catalogue.registry "shell" (ofScript_config _)
      buildRegistry_default Catalogue.readable_registry rfl ofScript_resolve hexits)
  rw [hfound] at hverbatim
  exact absurd hverbatim (by decide +kernel)

end LintRequest

end Cli

end LintRunner
