import LintRunner.Proofs.Cli.Tables
import LintRunner.Proofs.Config.Failures
import LintRunner.Proofs.Language

/-!
# Sessions for detected languages

A session that is given a target and no language runs the tools of the language that is detected. That
language is supported, whatever the configuration is (`Language.supports_of_detect?`), so the session may
fail in many ways but for want of tools for its language. The ways are gone through stage by stage: the
registry (`Cli.Surroundings.registry_isUnsupported`), the adapters (`Setup.run_isUnsupported`) and the
tables (`Cli.LintRequest.write_isUnsupported`).
-/

set_option autoImplicit false

namespace LintRunner

open Cli

def Failure.isUnsupported : Failure → Bool
  | .unsupportedLanguage _ => true
  | _ => false

theorem Failure.isUnsupported_of_isOfFormat {failure : Failure} (h : failure.isOfFormat = true) :
    failure.isUnsupported = false := by
  cases failure with
  | unsupportedLanguage tag => cases h
  | _ => rfl

/-- No adapter fails because of a language. -/
theorem Setup.attempt_isUnsupported (setup : Setup) {target : Option String} {history : List (List String)}
    {adapter : Adapter} {failure : Failure}
    (h : (setup.attempt target history adapter).result = .error failure) :
    failure.isUnsupported = false := by
  obtain hfails | ⟨rfl, -⟩ | ⟨-, executable, reason, rfl⟩ := setup.attempt_failure h
  · exact Failure.isUnsupported_of_isOfFormat hfails.isOfFormat
  · rfl
  · rfl

/-- The run of a language that is supported fails in other ways. -/
theorem Setup.run_isUnsupported {setup : Setup} {language : String}
    (hsupports : setup.registry.supports language = true) {target : Option String} {failure : Failure}
    (h : (setup.run [] language target).failure = some failure) : failure.isUnsupported = false := by
  cases hadapters : setup.registry.adaptersFor language with
  | error failure' =>
      rw [run_of_no_adapters hadapters] at h
      obtain rfl := Option.some.inj h
      obtain ⟨name, rfl⟩ := Registry.adaptersFor_error_of_supports hsupports hadapters
      rfl
  | ok adapters =>
      rw [run_of_adapters hadapters] at h
      obtain ⟨adapter, history, -, herror⟩ := setup.exists_attempt_of_failure h
      exact setup.attempt_isUnsupported herror

/-- No registry fails to be built because of a language. -/
theorem Cli.Surroundings.registry_isUnsupported {s : Surroundings} {path : Option Path} {failure : Failure}
    (h : s.registry path = .error failure) : failure.isUnsupported = false := by
  rcases bind_error h with h | ⟨config, -, h⟩
  · obtain ⟨problem, rfl⟩ | hmisplaced := config_error h
    · rfl
    · generalize s.source path = found at hmisplaced
      cases hmisplaced with
      | unexamined problem => rfl
      | illegible hillegible => cases hillegible <;> rfl
  · obtain ⟨problem, rfl⟩ | ⟨entry, -, hexceeds⟩ :=
      Config.buildRegistry_error Catalogue.wellFormed_registry h
    · rfl
    · cases hexceeds <;> rfl

namespace Cli.LintRequest

variable {r : LintRequest} {s : Surroundings}

/-! ## What ends a session -/

/-- What a session ends with, if it is not completed: why it does not begin, or the failure of its run or of
its tables. -/
def refusal? (r : LintRequest) (s : Surroundings) : Option Refusal :=
  match r.prepare s with
  | .error refusal => some refusal
  | .ok (setup, language) => (r.write s setup language).failure.map Refusal.failed

/-- **How a session ends.** What it says last, and the status that it exits with, are those of its refusal;
without one it exits like a run that was completed. -/
theorem run_refusal? (r : LintRequest) (s : Surroundings) :
    match r.refusal? s with
    | some refusal => (r.run s).ending = (r.refuse refusal).2 ∧
        ∃ remarks, (r.run s).stderr = remarks ++ (r.refuse refusal).1
    | none => (r.run s).ending = .exited .ok ∨ (r.run s).ending = .exited .diagnosticErrors := by
  rw [refusal?, LintRequest.run]
  cases hprepare : r.prepare s with
  | error refusal => exact ⟨rfl, "", (String.empty_append).symm⟩
  | ok prepared =>
      obtain ⟨setup, language⟩ := prepared
      simp only
      cases hwritten : (r.write s setup language).failure with
      | some failure => exact ⟨rfl, _, rfl⟩
      | none =>
          simp only [Option.map_none, finish]
          split
          · exact Or.inr rfl
          · exact Or.inl rfl

/-- A language that is asked for without being supported is what ends the session. -/
theorem refusal?_of_unsupported {setup : Setup} {language : String} (houtput : r.output ≠ .pretty)
    (h : r.prepare s = .ok (setup, language)) (hunsupported : setup.registry.supports language = false) :
    r.refusal? s = some (.failed (.unsupportedLanguage language)) := by
  rw [refusal?, h]
  simp only [write_failure houtput, Setup.run_of_unsupported hunsupported]
  rfl

/-! ## Sessions without a language -/

/-- The language of a session for which none was asked is the detected one. -/
theorem exists_detect? {language : String} (hlanguage : r.language = none) (h : r.resolve = .ok language) :
    ∃ target, r.target = some target ∧ Language.detect? target = some language := by
  rw [resolve, hlanguage] at h
  cases htarget : r.target with
  | none =>
      rw [htarget] at h
      cases h
  | some target =>
      rw [htarget] at h
      cases hdetect : Language.detect? target with
      | none =>
          simp only [hdetect] at h
          cases h
      | some tag =>
          simp only [hdetect, Except.ok.injEq] at h
          exact ⟨target, rfl, h ▸ hdetect⟩

/-- Lines, documents and tables fail as the run does, or for what tables may fail for. -/
theorem write_isUnsupported {setup : Setup} {language : String} {failure : Failure}
    (hrun : ∀ failure, (setup.run [] language r.place).failure = some failure →
      failure.isUnsupported = false)
    (h : (r.write s setup language).failure = some failure) : failure.isUnsupported = false := by
  by_cases houtput : r.output = .pretty
  · rw [write_listing (by rw [houtput]; decide)] at h
    have hlisted : (r.listed s (setup.run [] language r.place)).2 = some failure := h
    rw [listed] at hlisted
    cases hfailure : (setup.run [] language r.place).failure with
    | some failure' =>
        rw [hfailure] at hlisted
        exact hrun failure (hfailure.trans hlisted)
    | none =>
        rw [hfailure] at hlisted
        simp only [houtput, reduceCtorEq, if_false] at hlisted
        obtain rfl | ⟨problem, rfl⟩ := Listing.pretty_failure hlisted <;> rfl
  · rw [write_failure houtput] at h
    exact hrun failure h

/-- **A session for which no language was asked never lacks tools for its language.** -/
theorem refusal?_isUnsupported (hlanguage : r.language = none) {failure : Failure}
    (h : r.refusal? s = some (.failed failure)) : failure.isUnsupported = false := by
  rw [refusal?] at h
  cases hprepare : r.prepare s with
  | error refusal =>
      rw [hprepare] at h
      obtain rfl := Option.some.inj h
      rcases prepare_error hprepare with hresolve | ⟨failure', hfailure, hregistry⟩
      · obtain hrefusal | ⟨target, hrefusal⟩ := resolve_error hresolve <;> cases hrefusal
      · obtain rfl := Refusal.failed.inj hfailure
        exact Surroundings.registry_isUnsupported hregistry
  | ok prepared =>
      obtain ⟨setup, language⟩ := prepared
      rw [hprepare, Option.map_eq_some_iff] at h
      obtain ⟨failure', hwritten, hfailure⟩ := h
      obtain rfl := Refusal.failed.inj hfailure
      obtain ⟨config, registry, -, hresolve, hbuild, rfl⟩ := exists_of_prepare hprepare
      obtain ⟨target, -, hdetect⟩ := exists_detect? hlanguage hresolve
      exact write_isUnsupported (fun failure hfailed =>
        Setup.run_isUnsupported (Language.supports_of_detect? hdetect hbuild) hfailed) hwritten

end Cli.LintRequest

/-! ## Detected languages -/

namespace Language

/-- **Detected languages can be linted.** The language of a path depends on its last part in lower case alone,
so texts of paths that differ in their directories, in slashes and in single dots have the same language. A
language that is detected is supported by every registry that a configuration makes of the built-in one,
and a session for which no language was asked does not end for want of tools for a language. -/
theorem detected_supported :
    (∀ p q : Path, lowerCase p.name = lowerCase q.name → detect? p = detect? q) ∧
    (∀ s t name name' : String, Path.EndsIn s name → Path.EndsIn t name' →
      lowerCase name = lowerCase name' → detect? (Path.ofString s) = detect? (Path.ofString t)) ∧
    (∀ (p : Path) (tag : String), detect? p = some tag →
      ∀ (config : Config) (registry : Registry), config.buildRegistry Catalogue.registry = .ok registry →
        registry.supports tag = true ∧ ∃ adapters, registry.adaptersFor tag = .ok adapters) ∧
    ∀ (r : LintRequest) (s : Surroundings), r.language = none →
      ∀ tag, r.refusal? s ≠ some (.failed (.unsupportedLanguage tag)) := by
  refine ⟨fun p q => detect?_of_lowerCase_name, fun s t name name' hs ht hname => ?_,
    fun p tag hdetect config registry hbuild => ?_, fun r s hlanguage tag h => ?_⟩
  · exact detect?_of_lowerCase_name (by rwa [hs.name_eq, ht.name_eq])
  · have hsupports := supports_of_detect? hdetect hbuild
    refine ⟨hsupports, ?_⟩
    cases hadapters : registry.adaptersFor tag with
    | ok adapters => exact ⟨adapters, rfl⟩
    | error failure =>
        -- a registry that was built knows all the adapters that it lists
        have hwell := config.wellFormed_of_buildRegistry Catalogue.wellFormed_registry hbuild
        obtain rfl := hwell.adaptersFor_error hadapters
        obtain ⟨name, hname⟩ := Registry.adaptersFor_error_of_supports hsupports hadapters
        cases hname
  · cases LintRequest.refusal?_isUnsupported hlanguage h

/-- A configuration that puts a single tool in the place of those for a language. -/
def narrowed : Config := { languages := [(" Python ", ["ruff"])] }

/-- A session that asks for a language without tools. -/
theorem refusal?_of_cobol : ({ language := some "cobol" } : LintRequest).refusal? (.reciting "") =
    some (.failed (.unsupportedLanguage "cobol")) := by
  have hprepare : ({ language := some "cobol" } : LintRequest).prepare (.reciting "") =
      .ok (({ language := some "cobol" } : LintRequest).setup (.reciting "") {} Catalogue.registry,
        "cobol") :=
    LintRequest.prepare_eq rfl LintRequest.buildRegistry_default
  exact LintRequest.refusal?_of_unsupported (by decide) hprepare (by decide +kernel)

theorem detected_supported_python :
    Path.EndsIn "src//./Main.PY/." "Main.PY" ∧ Path.EndsIn "main.py" "main.py" ∧
      lowerCase "Main.PY" = lowerCase "main.py" ∧
      detect? (Path.ofString "src//./Main.PY/.") = some "python" ∧
      (∃ registry, narrowed.buildRegistry Catalogue.registry = .ok registry ∧
        registry.supports "python" = true) ∧
      (∀ tag, ({ target := some (Path.ofString "main.py") } : LintRequest).refusal? (.reciting "") ≠
        some (.failed (.unsupportedLanguage tag))) ∧
      ({ language := some "cobol" } : LintRequest).refusal? (.reciting "") =
        some (.failed (.unsupportedLanguage "cobol")) := by
  obtain ⟨hnames, htexts, hsupported, hsessions⟩ := detected_supported
  have hlong : Path.EndsIn "src//./Main.PY/." "Main.PY" :=
    ⟨⟨by decide, by decide, by decide⟩, "src//./".toList, ['/', '.'], by decide,
      Or.inr ⟨"src//.".toList, by decide⟩, .dot .none⟩
  have hshort : Path.EndsIn "main.py" "main.py" :=
    ⟨⟨by decide, by decide, by decide⟩, [], [], by decide, Or.inl rfl, .none⟩
  have hlower : lowerCase "Main.PY" = lowerCase "main.py" := by decide +kernel
  have hpython : detect? (Path.ofString "main.py") = some "python" := by decide +kernel
  obtain ⟨registry, hbuild⟩ : ∃ registry, narrowed.buildRegistry Catalogue.registry = .ok registry :=
    exists_of_isSome_toOption (by decide +kernel)
  exact ⟨hlong, hshort, hlower, (htexts _ _ _ _ hlong hshort hlower).trans hpython,
    ⟨registry, hbuild, (hsupported _ _ hpython _ _ hbuild).1⟩, hsessions _ _ rfl, refusal?_of_cobol⟩

end Language

end LintRunner
