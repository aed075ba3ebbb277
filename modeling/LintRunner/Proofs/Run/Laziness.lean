import Mathlib.Data.List.Forall2
import LintRunner.Proofs.Run.Modes

/-!
# Laziness

Whoever takes diagnostics from a cursor one by one makes as many adapters run as it takes to find them, and
no more. Taking some diagnostics splits what is drained in two (`Setup.drain_of_take`), which says what has
been passed and what the next move passes; which adapters have been run by then is found by induction on
the adapters (`Setup.exists_needs`). Together these give `Setup.take_lazy`.
-/

set_option autoImplicit false

namespace LintRunner

/-! ## What the first adapters supply -/

namespace Run

def supply (run : Run) (n : Nat) : Nat := ((run.outcomes.take n).flatMap Outcome.diagnostics).length

/-- Just the first `n` adapters of a run have to be run to find `k` diagnostics: they give as many, and fewer
of them do not. -/
structure Needs (run : Run) (k n : Nat) : Prop where
  within : n ≤ run.outcomes.length
  enough : k ≤ run.supply n
  least : ∀ m, m < n → run.supply m < k

theorem needs_zero (run : Run) : run.Needs 0 0 :=
  ⟨Nat.zero_le _, Nat.zero_le _, fun m h => absurd h (Nat.not_lt_zero m)⟩

/-- An adapter in front gives its diagnostics first, and so fewer are needed from those behind it. -/
theorem Needs.cons {later run : Run} {outcome : Outcome} {k n : Nat}
    (h : later.Needs (k + 1 - outcome.diagnostics.length) n)
    (houtcomes : run.outcomes = outcome :: later.outcomes) : run.Needs (k + 1) (n + 1) := by
  have hsupply : ∀ m, run.supply (m + 1) = outcome.diagnostics.length + later.supply m := by
    intro m
    rw [supply, houtcomes, List.take_succ_cons, List.flatMap_cons, List.length_append]
    rfl
  refine ⟨?_, ?_, ?_⟩
  · rw [houtcomes]
    exact Nat.succ_le_succ h.within
  · have := h.enough
    rw [hsupply]
    omega
  · intro m hm
    cases m with
    | zero => simp [supply]
    | succ m =>
        have := h.least m (Nat.lt_of_succ_lt_succ hm)
        rw [hsupply]
        omega

end Run

namespace Setup

variable {setup : Setup}

/-! ## What has been passed -/

/-- **Taking some diagnostics and draining the rest is draining all of them.** -/
theorem drain_of_take {k : Nat} {history : List (List String)} {cursor : Cursor}
    (h : (setup.take k history cursor).ending = .more) :
    let taken := setup.take k history cursor
    let later := setup.drain (history ++ Event.calls taken.events) taken.cursor
    taken.items.length = k ∧
      setup.drain history cursor
        = { later with events := taken.events ++ later.events, items := taken.items ++ later.items } := by
  induction k generalizing history cursor with
  | zero => simp [take, Event.calls]
  | succ k ih =>
      rw [take] at h ⊢
      cases hitem : (setup.next history cursor).item with
      | error failure =>
          rw [hitem] at h
          cases h
      | ok found =>
          cases found with
          | none =>
              rw [hitem] at h
              cases h
          | some d =>
              simp only [hitem] at h ⊢
              obtain ⟨hlength, hdrain⟩ := ih h
              refine ⟨congrArg (· + 1) hlength, ?_⟩
              rw [drain_of_some hitem]
              simp only [hdrain, Event.calls_append, List.append_assoc, List.cons_append]

/-- As many diagnostics can be taken as can be drained. -/
theorem take_more_iff {k : Nat} {history : List (List String)} {cursor : Cursor} :
    (setup.take k history cursor).ending = .more ↔ k ≤ (setup.drain history cursor).items.length := by
  constructor
  · intro h
    obtain ⟨hlength, hdrain⟩ := drain_of_take h
    rw [hdrain, List.length_append, hlength]
    exact Nat.le_add_right _ _
  · intro h
    induction k generalizing history cursor with
    | zero => rfl
    | succ k ih =>
        rw [take]
        cases hitem : (setup.next history cursor).item with
        | error failure =>
            rw [drain_of_error hitem] at h
            cases h
        | ok found =>
            cases found with
            | none =>
                rw [drain_of_none hitem] at h
                cases h
            | some d =>
                rw [drain_of_some hitem] at h
                exact ih (Nat.le_of_succ_le_succ h)

/-- Taking fails if draining fails and more is asked for than can be drained. -/
theorem take_failed_iff {k : Nat} {history : List (List String)} {cursor : Cursor} {failure : Failure} :
    (setup.take k history cursor).ending = .failed failure ↔
      (setup.drain history cursor).failure = some failure ∧
        (setup.drain history cursor).items.length < k := by
  by_cases hk : k ≤ (setup.drain history cursor).items.length
  · rw [take_more_iff.mpr hk]
    exact ⟨fun h => (by cases h), fun h => absurd hk (Nat.not_le.mpr h.2)⟩
  · rw [Nat.not_le] at hk
    rw [setup.take_eq_drain hk]
    cases (setup.drain history cursor).failure <;> simp [endingOf, hk]

/-- A move passes the first diagnostic that can be drained. If there is none, it does all that is left to do
and fails as draining does. -/
theorem next_of_drain (history : List (List String)) (cursor : Cursor) :
    let all := setup.drain history cursor
    let move := setup.next history cursor
    match all.items.head? with
    | some d => move.item = .ok (some d)
    | none => move.events = all.events ∧
        move.item = (match all.failure with
          | some failure => .error failure
          | none => .ok none) := by
  cases hitem : (setup.next history cursor).item with
  | error failure => simpa [drain_of_error hitem] using hitem
  | ok found =>
      cases found with
      | none => simpa [drain_of_none hitem] using hitem
      | some d => simpa [drain_of_some hitem] using hitem

/-- **What is taken are the first diagnostics that can be drained, and the next move goes on behind them.** -/
theorem next_of_take {k : Nat} {history : List (List String)} {cursor : Cursor}
    (h : (setup.take k history cursor).ending = .more) :
    let all := setup.drain history cursor
    let taken := setup.take k history cursor
    let move := setup.next (history ++ Event.calls taken.events) taken.cursor
    taken.items.length = k ∧ taken.items = all.items.take k ∧
      match all.items[k]? with
      | some d => move.item = .ok (some d)
      | none => taken.events ++ move.events = all.events ∧
          move.item = (match all.failure with
            | some failure => .error failure
            | none => .ok none) := by
  intro all taken move
  obtain ⟨hlength, hsplit⟩ := drain_of_take h
  have hnext := setup.next_of_drain (history ++ Event.calls taken.events) taken.cursor
  have hitems : all.items
      = taken.items ++ (setup.drain (history ++ Event.calls taken.events) taken.cursor).items :=
    congrArg Remainder.items hsplit
  have hhead : all.items[k]?
      = (setup.drain (history ++ Event.calls taken.events) taken.cursor).items.head? := by
    rw [← List.head?_drop, hitems, List.drop_left' hlength]
  refine ⟨hlength, by rw [hitems, List.take_left' hlength], ?_⟩
  rw [hhead]
  split
  · rename_i d hd
    simpa only [hd] using hnext
  · rename_i hnone
    simp only [hnone] at hnext
    refine ⟨?_, ?_⟩
    · rw [show all.events = _ from congrArg Remainder.events hsplit, hnext.1]
    · rw [show all.failure = _ from congrArg Remainder.failure hsplit]
      exact hnext.2

/-! ## What has been run -/

/-- While diagnostics are pending nothing is run. -/
theorem take_pending_events (target : Option String) (pending : List Diagnostic) (rest : List Adapter)
    (k : Nat) (history : List (List String)) :
    (setup.take k history (.reading target pending rest)).events
      = (setup.take (k - pending.length) history (.reading target [] rest)).events := by
  induction pending generalizing k with
  | nil => rfl
  | cons d pending ih =>
      cases k with
      | zero => simp [take]
      | succ k =>
          have hmove := setup.next_pending history target d pending rest
          have hcalls : history ++ Event.calls [] = history := List.append_nil history
          rw [take]
          simp only [hmove, hcalls, ih, List.nil_append, List.length_cons, Nat.add_sub_add_right]

/-- With nothing pending the next adapter is run first. -/
theorem take_outcome_events {target : Option String} {history : List (List String)} {adapter : Adapter}
    {outcome : Outcome} (h : (setup.attempt target history adapter).result = .ok outcome)
    (rest : List Adapter) (k : Nat) :
    (setup.take (k + 1) history (.reading target [] (adapter :: rest))).events
      = (setup.attempt target history adapter).events ++
        (setup.take (k + 1)
          (history ++ Event.calls (setup.attempt target history adapter).events)
          (.reading target outcome.diagnostics rest)).events := by
  have hnext := setup.next_outcome h rest
  rw [take, take, hnext]
  cases hitem : (setup.next (history ++ Event.calls (setup.attempt target history adapter).events)
      (.reading target outcome.diagnostics rest)).item with
  | error failure => rfl
  | ok found =>
      cases found with
      | none => rfl
      | some d => simp only [Event.calls_append, List.append_assoc]

/-- **Taking diagnostics runs just the adapters that are needed for them**, each with its command. -/
theorem exists_needs (target : Option String) (adapters : List Adapter) (history : List (List String))
    {k : Nat} (h : k ≤ (setup.runFrom target history adapters).diagnostics.length) :
    ∃ n, (setup.runFrom target history adapters).Needs k n ∧
      (setup.take k history (.reading target [] adapters)).events
        = (setup.runFrom target history (adapters.take n)).events ∧
      List.Forall₂ (fun adapter words => adapter.buildCommand target = .ok words) (adapters.take n)
        (Event.calls (setup.runFrom target history (adapters.take n)).events) := by
  induction adapters generalizing history k with
  | nil =>
      obtain rfl : k = 0 := Nat.le_zero.mp h
      exact ⟨0, Run.needs_zero _, rfl, .nil⟩
  | cons adapter rest ih =>
      cases k with
      | zero => exact ⟨0, Run.needs_zero _, rfl, .nil⟩
      | succ k =>
          cases hresult : (setup.attempt target history adapter).result with
          | error failure =>
              rw [runFrom_failure hresult] at h
              cases h
          | ok outcome =>
              obtain ⟨words, hcalls, hgives⟩ := setup.gives_of_attempt hresult
              have hcommand : adapter.buildCommand target = .ok words := by cases hgives <;> assumption
              -- for the whole run, and for that of as many adapters as are needed
              have hrun := runFrom_outcome hresult hcalls
              have hlater : k + 1 - outcome.diagnostics.length
                  ≤ (setup.runFrom target (history ++ [words]) rest).diagnostics.length := by
                rw [hrun, Run.diagnostics, List.flatMap_cons, List.length_append] at h
                rw [Run.diagnostics]
                omega
              obtain ⟨n, hneeds, hevents, hcommands⟩ := ih (history ++ [words]) hlater
              refine ⟨n + 1, hneeds.cons (by rw [hrun]), ?_, ?_⟩
              · rw [take_outcome_events hresult, take_pending_events, hcalls, hevents,
                  List.take_succ_cons, hrun]
              · rw [List.take_succ_cons, hrun, Event.calls_append, hcalls]
                exact .cons hcommand hcommands

/-- Whether a cursor has been moved or not makes no difference to what is run. -/
theorem take_start_events {language : String} {adapters : List Adapter}
    (h : setup.registry.adaptersFor language = .ok adapters) (target : Option String) (k : Nat)
    (history : List (List String)) :
    (setup.take k history (.start language target)).events
      = (setup.take k history (.reading target [] adapters)).events := by
  cases k with
  | zero => rfl
  | succ k => rw [take, take, next_start h]

/-- For a language without adapters nothing is run. -/
theorem take_start_error {language : String} {failure : Failure}
    (h : setup.registry.adaptersFor language = .error failure) (target : Option String) (k : Nat)
    (history : List (List String)) : (setup.take k history (.start language target)).events = [] := by
  cases k with
  | zero => rfl
  | succ k => rw [take, next_start_error h]

/-- **Diagnostics are found lazily.** As many can be taken one by one as the run has in all, and when some
have been taken, just the adapters that are needed for them have been run. The diagnostics taken are the
first ones of the run, and so of the whole list if there is one. The next move passes the one behind them.
Only if there is none, it does the rest of what the run does, and there a run that fails meets its
failure, so that all diagnostics of the adapters before the one that fails can be taken. -/
theorem take_lazy (setup : Setup) (history : List (List String)) (language : String)
    (target : Option String) (k : Nat) :
    let run := setup.run history language target
    let taken := setup.take k history (.start language target)
    (taken.ending = .more ↔ k ≤ run.diagnostics.length) ∧
    (∀ failure, taken.ending = .failed failure ↔
      run.failure = some failure ∧ run.diagnostics.length < k) ∧
    (match setup.registry.adaptersFor language with
      | .error failure => run = { events := [], outcomes := [], failure := some failure } ∧
          taken.events = []
      | .ok adapters => setup.Follows target history adapters run ∧
          (taken.ending = .more → ∃ n, run.Needs k n ∧
            taken.events = (setup.runFrom target history (adapters.take n)).events ∧
            List.Forall₂ (fun adapter words => adapter.buildCommand target = .ok words)
              (adapters.take n) (Event.calls taken.events))) ∧
    (taken.ending = .more →
      taken.items.length = k ∧ taken.items = run.diagnostics.take k ∧
      (∀ found, (setup.lint history language target).diagnostics = .ok found →
        taken.items = found.take k) ∧
      let move := setup.next (history ++ Event.calls taken.events) taken.cursor
      match run.diagnostics[k]? with
      | some d => move.item = .ok (some d)
      | none => taken.events ++ move.events = run.events ∧
          move.item = (match run.failure with
            | some failure => .error failure
            | none => .ok none)) := by
  intro run taken
  have hdrain : setup.drain history (.start language target)
      = { events := run.events, items := run.diagnostics, failure := run.failure } :=
    setup.lint_eq_run history language target
  have hmore : taken.ending = .more ↔ k ≤ run.diagnostics.length := by
    rw [take_more_iff, hdrain]
  refine ⟨hmore, ?_, ?_, ?_⟩
  · intro failure
    rw [take_failed_iff, hdrain]
  · cases hadapters : setup.registry.adaptersFor language with
    | error failure =>
        exact ⟨run_of_no_adapters hadapters history target, take_start_error hadapters target k history⟩
    | ok adapters =>
        have hrun : run = setup.runFrom target history adapters := run_of_adapters hadapters history target
        rw [hrun] at hmore ⊢
        refine ⟨setup.runFrom_follows target history adapters, fun hending => ?_⟩
        obtain ⟨n, hneeds, hevents, hcommands⟩ := exists_needs target adapters history (hmore.mp hending)
        have htaken : taken.events = (setup.runFrom target history (adapters.take n)).events :=
          (take_start_events hadapters target k history).trans hevents
        exact ⟨n, hneeds, htaken, htaken ▸ hcommands⟩
  · intro hending
    obtain ⟨hlength, hitems, hnext⟩ := next_of_take hending
    rw [hdrain] at hitems hnext
    refine ⟨hlength, hitems, fun found hfound => ?_, hnext⟩
    rw [lint_eq_run, Remainder.diagnostics] at hfound
    split at hfound
    · cases hfound
    · exact Except.ok.inj hfound ▸ hitems

end Setup

end LintRunner
