import LintRunner.Proofs.Run.Diagnostics

/-!
# The ways to use a run agree

Reports, lists, iterators and streams of a run do the same in the same order (`Setup.modes_agree`). A stream
can write every diagnostic of a run, since its positions come from a matcher (`Setup.stream_eq_run`).
-/

set_option autoImplicit false

namespace LintRunner.Setup

variable (setup : Setup)

/-- A stream gives out the diagnostics of the run, each as a line. -/
theorem stream_eq_run (history : List (List String)) (language : String) (target : Option String) :
    setup.stream history language target
      = { events := (setup.run history language target).events
          lines := (setup.run history language target).diagnostics.map Diagnostic.asLine
          count :=
            match (setup.run history language target).failure with
            | some failure => .error failure
            | none => .ok (setup.run history language target).diagnostics.length } := by
  have hdrain : setup.drain history (.start language target)
      = { events := (setup.run history language target).events
          items := (setup.run history language target).diagnostics
          failure := (setup.run history language target).failure } :=
    setup.lint_eq_run history language target
  have hstream := setup.streamFrom_eq_drain 0 history (.start language target) (by
    rw [hdrain]
    exact isWritable_of_mem_diagnostics)
  rw [hdrain] at hstream
  simp only [Nat.zero_add] at hstream
  exact hstream

/-- **All ways to use a run agree.** From the same history a report, a list, an iterator that is used
up and a stream come from the same events, and they fail alike. The report lists one outcome for each
adapter; the list, the iterator and the stream hold the diagnostics of these outcomes. What a run that
fails has streamed are the diagnostics of the adapters that it completed. -/
theorem modes_agree (history : List (List String)) (language : String) (target : Option String) :
    let run := setup.run history language target
    let lint := setup.lint history language target
    let stream := setup.stream history language target
    (lint.events = run.events ∧ stream.events = run.events ∧
      ∀ more, setup.take (run.diagnostics.length + 1 + more) history (.start language target)
        = { events := run.events, items := run.diagnostics, ending := endingOf run.failure,
            cursor := .closed }) ∧
    lint.items = run.diagnostics ∧
    stream.lines = run.diagnostics.map Diagnostic.asLine ∧
    (match run.failure with
      | some failure => run.report language target = .error failure ∧
          lint.diagnostics = .error failure ∧ stream.count = .error failure
      | none => ∃ report, run.report language target = .ok report ∧
          report.outcomes = run.outcomes ∧ report.diagnostics = run.diagnostics ∧
          lint.diagnostics = .ok report.diagnostics ∧
          stream.count = .ok report.diagnostics.length) ∧
    (match setup.registry.adaptersFor language with
      | .ok adapters => setup.Follows target history adapters run
      | .error failure => run = { events := [], outcomes := [], failure := some failure }) := by
  intro run lint stream
  have hlint : lint = { events := run.events, items := run.diagnostics, failure := run.failure } :=
    setup.lint_eq_run history language target
  have hdrain : setup.drain history (.start language target) = lint := rfl
  have hstream : stream = _ := setup.stream_eq_run history language target
  refine ⟨⟨by rw [hlint], by rw [hstream], ?_⟩, by rw [hlint], by rw [hstream], ?_, ?_⟩
  · intro more
    rw [setup.take_eq_drain (by rw [hdrain, hlint]; simp only; omega), hdrain, hlint]
  · rw [hstream, hlint]
    cases hfailure : run.failure with
    | some failure => exact ⟨by rw [Run.report, hfailure], rfl, rfl⟩
    | none =>
        exact ⟨{ language, target, outcomes := run.outcomes }, by rw [Run.report, hfailure], rfl,
          rfl, rfl, rfl⟩
  · cases hadapters : setup.registry.adaptersFor language with
    | error failure => exact run_of_no_adapters hadapters history target
    | ok adapters =>
        have hrun : run = setup.runFrom target history adapters := run_of_adapters hadapters history target
        rw [hrun]
        exact setup.runFrom_follows target history adapters

end LintRunner.Setup
