import LintRunner.Run.Stream

/-!
# The ways to use a run

A run can be turned into a report, drained diagnostic by diagnostic, or streamed as lines. Draining a cursor
gives what the remaining adapters give (`Setup.drain_reading`), a stream is the rendering of what is drained
(`Setup.streamFrom_eq_drain`), and taking one diagnostic after the other passes exactly what is drained
(`Setup.take_eq_drain`). `Setup.Follows` says which outcomes and commands a run over some adapters has.
-/

set_option autoImplicit false

namespace LintRunner

def Run.diagnostics (run : Run) : List Diagnostic := run.outcomes.flatMap Outcome.diagnostics

namespace Event

theorem calls_append (a b : List Event) : calls (a ++ b) = calls a ++ calls b :=
  List.filterMap_append

end Event

namespace Setup

variable (setup : Setup)

/-! ## The adapters of a run -/

section

variable {setup} {language : String}

theorem run_of_adapters {adapters : List Adapter}
    (h : setup.registry.adaptersFor language = .ok adapters) (history : List (List String))
    (target : Option String) :
    setup.run history language target = setup.runFrom target history adapters := by
  rw [run, h]

/-- Without adapters for its language a run does nothing. -/
theorem run_of_no_adapters {failure : Failure}
    (h : setup.registry.adaptersFor language = .error failure) (history : List (List String))
    (target : Option String) :
    setup.run history language target = { events := [], outcomes := [], failure := some failure } := by
  rw [run, h]

/-- A run ends with the first adapter that fails. -/
theorem runFrom_failure {target : Option String} {history : List (List String)} {adapter : Adapter}
    {failure : Failure} (h : (setup.attempt target history adapter).result = .error failure)
    (rest : List Adapter) :
    setup.runFrom target history (adapter :: rest)
      = { events := (setup.attempt target history adapter).events, outcomes := [],
          failure := some failure } := by
  rw [runFrom, h]

/-- A run goes on behind an adapter that is completed, with its commands in the history. -/
theorem runFrom_outcome {target : Option String} {history : List (List String)} {adapter : Adapter}
    {outcome : Outcome} {calls : List (List String)}
    (h : (setup.attempt target history adapter).result = .ok outcome)
    (hcalls : Event.calls (setup.attempt target history adapter).events = calls)
    (rest : List Adapter) :
    setup.runFrom target history (adapter :: rest)
      = { events := (setup.attempt target history adapter).events ++
            (setup.runFrom target (history ++ calls) rest).events
          outcomes := outcome :: (setup.runFrom target (history ++ calls) rest).outcomes
          failure := (setup.runFrom target (history ++ calls) rest).failure } := by
  rw [runFrom, h, hcalls]

/-- The first move of a cursor looks up the adapters of its language. -/
theorem next_start {adapters : List Adapter}
    (h : setup.registry.adaptersFor language = .ok adapters) (history : List (List String))
    (target : Option String) :
    setup.next history (.start language target) = setup.next history (.reading target [] adapters) := by
  simp only [next, h]

theorem next_start_error {failure : Failure}
    (h : setup.registry.adaptersFor language = .error failure) (history : List (List String))
    (target : Option String) :
    setup.next history (.start language target)
      = { events := [], item := .error failure, cursor := .closed } := by
  simp only [next, h]

end

/-! ## One move -/

theorem next_pending (history : List (List String)) (target : Option String) (d : Diagnostic)
    (pending : List Diagnostic) (rest : List Adapter) :
    setup.next history (.reading target (d :: pending) rest)
      = { events := [], item := .ok (some d), cursor := .reading target pending rest } := by
  cases rest <;> rfl

/-- With nothing pending the next adapter is run. If it fails the reading ends there. -/
theorem next_failure {history : List (List String)} {target : Option String} {adapter : Adapter}
    {failure : Failure} (h : (setup.attempt target history adapter).result = .error failure)
    (rest : List Adapter) :
    setup.next history (.reading target [] (adapter :: rest))
      = { events := (setup.attempt target history adapter).events, item := .error failure,
          cursor := .closed } := by
  show setup.nextFrom target history [] (adapter :: rest) = _
  rw [nextFrom]
  simp only [h]

/-- With nothing pending the next adapter is run. If it is completed its diagnostics are pending. -/
theorem next_outcome {history : List (List String)} {target : Option String} {adapter : Adapter}
    {outcome : Outcome} (h : (setup.attempt target history adapter).result = .ok outcome)
    (rest : List Adapter) :
    setup.next history (.reading target [] (adapter :: rest))
      = let events := (setup.attempt target history adapter).events
        let move := setup.next (history ++ Event.calls events)
          (.reading target outcome.diagnostics rest)
        { move with events := events ++ move.events } := by
  show setup.nextFrom target history [] (adapter :: rest) = _
  rw [nextFrom]
  simp only [h]
  rfl

/-! ## All moves -/

section

variable {setup} {history : List (List String)} {cursor : Cursor}

theorem drain_of_error {failure : Failure} (h : (setup.next history cursor).item = .error failure) :
    setup.drain history cursor
      = { events := (setup.next history cursor).events, items := [], failure := some failure } := by
  rw [drain]
  split <;> simp_all

theorem drain_of_none (h : (setup.next history cursor).item = .ok none) :
    setup.drain history cursor
      = { events := (setup.next history cursor).events, items := [], failure := none } := by
  rw [drain]
  split <;> simp_all

theorem drain_of_some {d : Diagnostic} (h : (setup.next history cursor).item = .ok (some d)) :
    setup.drain history cursor
      = let move := setup.next history cursor
        let later := setup.drain (history ++ Event.calls move.events) move.cursor
        { later with events := move.events ++ later.events, items := d :: later.items } := by
  rw [drain]
  split <;> simp_all

end

/-- Moves that only begin with further events drain to the same diagnostics. -/
theorem drain_of_next {history history' : List (List String)} {cursor cursor' : Cursor}
    {events : List Event} (hhistory : history' = history ++ Event.calls events)
    (hnext : setup.next history cursor
      = { setup.next history' cursor' with
          events := events ++ (setup.next history' cursor').events }) :
    setup.drain history cursor
      = { setup.drain history' cursor' with
          events := events ++ (setup.drain history' cursor').events } := by
  have hitem : (setup.next history cursor).item = (setup.next history' cursor').item := by
    rw [hnext]
  cases h : (setup.next history' cursor').item with
  | error failure =>
      rw [drain_of_error h, drain_of_error (hitem.trans h), hnext]
  | ok found =>
      cases found with
      | none => rw [drain_of_none h, drain_of_none (hitem.trans h), hnext]
      | some d =>
          rw [drain_of_some h, drain_of_some (hitem.trans h), hnext]
          simp only [Event.calls_append, hhistory, List.append_assoc]

/-- **What is drained are the pending diagnostics and then those of the remaining adapters.** -/
theorem drain_reading (target : Option String) (rest : List Adapter)
    (history : List (List String)) (pending : List Diagnostic) :
    setup.drain history (.reading target pending rest)
      = { events := (setup.runFrom target history rest).events
          items := pending ++ (setup.runFrom target history rest).diagnostics
          failure := (setup.runFrom target history rest).failure } := by
  induction rest generalizing history pending with
  | nil =>
      induction pending with
      | nil => exact drain_of_none rfl
      | cons d pending ih =>
          have hmove := setup.next_pending history target d pending []
          rw [drain_of_some (by rw [hmove])]
          simp only [hmove, Event.calls, List.filterMap_nil, List.append_nil, ih]
          rfl
  | cons adapter rest ih =>
      induction pending with
      | nil =>
          cases hresult : (setup.attempt target history adapter).result with
          | error failure =>
              have hmove := setup.next_failure hresult rest
              rw [drain_of_error (by rw [hmove]), hmove, runFrom_failure hresult]
              rfl
          | ok outcome =>
              rw [setup.drain_of_next rfl (setup.next_outcome hresult rest), ih,
                runFrom_outcome hresult rfl]
              rfl
      | cons d pending ih =>
          have hmove := setup.next_pending history target d pending (adapter :: rest)
          rw [drain_of_some (by rw [hmove])]
          simp only [hmove, Event.calls, List.filterMap_nil, List.append_nil, ih]
          rfl

/-- Draining the diagnostics of a language gives those of its run. -/
theorem lint_eq_run (history : List (List String)) (language : String) (target : Option String) :
    setup.lint history language target
      = { events := (setup.run history language target).events
          items := (setup.run history language target).diagnostics
          failure := (setup.run history language target).failure } := by
  rw [lint, run]
  cases hadapters : setup.registry.adaptersFor language with
  | error failure =>
      have hmove := next_start_error hadapters history target
      rw [drain_of_error (by rw [hmove]), hmove]
      rfl
  | ok adapters =>
      have hmove := next_start hadapters history target
      have hdrain : setup.drain history (.start language target)
          = { setup.drain history (.reading target [] adapters) with
              events := [] ++ (setup.drain history (.reading target [] adapters)).events } :=
        setup.drain_of_next (by simp [Event.calls]) (by rw [hmove]; rfl)
      rw [hdrain, drain_reading]
      rfl

/-! ## Streams -/

/-- **A stream gives out what is drained, each diagnostic as a line, and counts it**, if it can be written. -/
theorem streamFrom_eq_drain (count : Nat) (history : List (List String)) (cursor : Cursor)
    (hwritable : ∀ d ∈ (setup.drain history cursor).items, d.isWritable = true) :
    setup.streamFrom count history cursor
      = { events := (setup.drain history cursor).events
          lines := (setup.drain history cursor).items.map Diagnostic.asLine
          count :=
            match (setup.drain history cursor).failure with
            | some failure => .error failure
            | none => .ok (count + (setup.drain history cursor).items.length) } := by
  fun_induction streamFrom setup count history cursor with
  | case1 count history cursor move failure h => rw [drain_of_error h]; rfl
  | case2 count history cursor move h => rw [drain_of_none h]; rfl
  | case3 count history cursor move d h failure hwrite =>
      rw [drain_of_some h] at hwritable
      rw [Diagnostic.writeLine, if_pos (hwritable d List.mem_cons_self)] at hwrite
      cases hwrite
  | case4 count history cursor move d h line hwrite later ih =>
      rw [drain_of_some h] at hwritable ⊢
      obtain ⟨hd, hlater⟩ := List.forall_mem_cons.mp hwritable
      rw [Diagnostic.writeLine, if_pos hd] at hwrite
      obtain rfl := Except.ok.inj hwrite
      simp only [later, ih hlater, List.map_cons, List.length_cons, Nat.add_assoc, Nat.add_comm 1]
      rfl

/-! ## Moves counted -/

/-- How moves come to their end when more are asked for than there are diagnostics. -/
def endingOf : Option Failure → Ending
  | some failure => .failed failure
  | none => .atEnd

/-- A move that passes no diagnostic closes the cursor. -/
theorem nextFrom_closed (target : Option String) (rest : List Adapter)
    (history : List (List String)) (pending : List Diagnostic)
    (h : ∀ d, (setup.nextFrom target history pending rest).item ≠ .ok (some d)) :
    (setup.nextFrom target history pending rest).cursor = .closed := by
  induction rest generalizing history pending with
  | nil =>
      cases pending with
      | nil => rfl
      | cons d pending => exact absurd rfl (h d)
  | cons adapter rest ih =>
      cases pending with
      | cons d pending => exact absurd rfl (h d)
      | nil =>
          rw [nextFrom] at h ⊢
          cases hresult : (setup.attempt target history adapter).result with
          | error failure => rfl
          | ok outcome =>
              simp only [hresult] at h ⊢
              exact ih _ _ h

theorem next_closed {history : List (List String)} {cursor : Cursor}
    (h : ∀ d, (setup.next history cursor).item ≠ .ok (some d)) :
    (setup.next history cursor).cursor = .closed := by
  cases cursor with
  | closed => rfl
  | reading target pending rest => exact setup.nextFrom_closed target rest history pending h
  | start language target =>
      rw [next] at h ⊢
      cases hadapters : setup.registry.adaptersFor language with
      | error failure => rfl
      | ok adapters =>
          simp only [hadapters] at h ⊢
          exact setup.nextFrom_closed target adapters history [] h

/-- **Taking more diagnostics than there are passes what is drained and comes to the end.** -/
theorem take_eq_drain {n : Nat} {history : List (List String)} {cursor : Cursor}
    (hn : (setup.drain history cursor).items.length < n) :
    setup.take n history cursor
      = { events := (setup.drain history cursor).events
          items := (setup.drain history cursor).items
          ending := endingOf (setup.drain history cursor).failure
          cursor := .closed } := by
  induction n generalizing history cursor with
  | zero => exact absurd hn (Nat.not_lt_zero _)
  | succ n ih =>
      rw [take]
      cases h : (setup.next history cursor).item with
      | error failure =>
          have hclosed : (setup.next history cursor).cursor = .closed :=
            setup.next_closed (by simp [h])
          simp only [drain_of_error h, hclosed, endingOf]
      | ok found =>
          cases found with
          | none =>
              have hclosed : (setup.next history cursor).cursor = .closed :=
                setup.next_closed (by simp [h])
              simp only [drain_of_none h, hclosed, endingOf]
          | some d =>
              rw [drain_of_some h] at hn ⊢
              simp only [List.length_cons, Nat.add_lt_add_iff_right] at hn
              simp only [ih hn]

/-! ## What the adapters give -/

/-- The diagnostics of the lines of a tool: no line is too hard to read, and those that conform to the
format give one diagnostic each, in the order of the lines and with the name of the tool. -/
structure Reads (matcher : Matcher) (tool : String) (lines : List String)
    (diagnostics : List Diagnostic) : Prop where
  readable : ∀ line ∈ lines, ∃ found, matcher.apply line = .ok found
  found : diagnostics = lines.filterMap fun line =>
    match matcher.apply line with
    | .ok (some d) => some { d with tool := some tool }
    | _ => none

/-- The outcome of an adapter that is run with a command after earlier commands. The exit status of
its tool has no influence on its diagnostics. -/
inductive Gives (target : Option String) (history : List (List String)) (adapter : Adapter)
    (words : List String) : Outcome → Prop
  | executed {matcher : Matcher} {status : Int} {lines : List String}
      {diagnostics : List Diagnostic} (command : adapter.buildCommand target = .ok words)
      (compiled : adapter.format.compile = .ok matcher)
      (reply : setup.runner history words = .finished status lines)
      (reads : Reads matcher adapter.name lines diagnostics) :
      Gives target history adapter words
        { adapter := adapter.name, status := some status, diagnostics }
  | skipped {matcher : Matcher} {executable reason : String} (policy : setup.policy = .skip)
      (command : adapter.buildCommand target = .ok words)
      (compiled : adapter.format.compile = .ok matcher)
      (reply : setup.runner history words = .notStarted executable reason) :
      Gives target history adapter words
        { adapter := adapter.name, error := some (Failure.toolNotStarted executable reason).message }

theorem reads_of_readLines {matcher : Matcher} {tool : String} {lines : List String}
    {diagnostics : List Diagnostic} (h : readLines matcher tool lines = .ok diagnostics) :
    Reads matcher tool lines diagnostics := by
  induction lines generalizing diagnostics with
  | nil =>
      injection h with h
      subst h
      exact ⟨by simp, rfl⟩
  | cons line lines ih =>
      rw [readLines] at h
      cases happly : matcher.apply line with
      | error failure => simp [happly] at h
      | ok found =>
          cases found with
          | none =>
              simp only [happly] at h
              obtain ⟨hreadable, hfound⟩ := ih h
              exact ⟨by simpa [happly] using hreadable, by simpa [happly] using hfound⟩
          | some d =>
              simp only [happly] at h
              cases hrest : readLines matcher tool lines with
              | error failure => simp [hrest, Except.map] at h
              | ok rest =>
                  simp only [hrest, Except.map, Except.ok.injEq] at h
                  obtain ⟨hreadable, hfound⟩ := ih hrest
                  subst h
                  exact ⟨by simpa [happly] using hreadable, by simp [happly, hfound]⟩

/-- Lines can be read if there is an answer for every line. -/
theorem exists_readLines {matcher : Matcher} (tool : String)
    (h : ∀ line, ∃ found, matcher.apply line = .ok found) (lines : List String) :
    ∃ diagnostics, readLines matcher tool lines = .ok diagnostics := by
  induction lines with
  | nil => exact ⟨[], rfl⟩
  | cons line lines ih =>
      obtain ⟨found, hfound⟩ := h line
      obtain ⟨diagnostics, hlater⟩ := ih
      rw [readLines, hfound]
      cases found with
      | none => exact ⟨diagnostics, hlater⟩
      | some d => exact ⟨_, by simp only [hlater]; rfl⟩

/-- All that running one adapter can come to: there is no command, or no matcher; the command cannot be
started, which ends the run or is passed over; or it is started, and its lines can be read or not. -/
inductive Tries (target : Option String) (history : List (List String)) (adapter : Adapter) :
    Attempt → Prop
  | unbuilt {failure : Failure} (command : adapter.buildCommand target = .error failure) :
      Tries target history adapter { events := [.before adapter], result := .error failure }
  | uncompiled {words : List String} {failure : Failure}
      (command : adapter.buildCommand target = .ok words)
      (compiled : adapter.format.compile = .error failure) :
      Tries target history adapter { events := [.before adapter], result := .error failure }
  | aborted {words : List String} {matcher : Matcher} {executable reason : String}
      (policy : setup.policy = .abort) (command : adapter.buildCommand target = .ok words)
      (compiled : adapter.format.compile = .ok matcher)
      (reply : setup.runner history words = .notStarted executable reason) :
      Tries target history adapter
        { events := [.before adapter, .called adapter words, .failed adapter executable reason],
          result := .error (.toolNotStarted executable reason) }
  | skipped {words : List String} {matcher : Matcher} {executable reason error : String}
      {outcome : Outcome} (policy : setup.policy = .skip)
      (command : adapter.buildCommand target = .ok words)
      (compiled : adapter.format.compile = .ok matcher)
      (reply : setup.runner history words = .notStarted executable reason)
      (text : error = (Failure.toolNotStarted executable reason).message)
      (noted : outcome = { adapter := adapter.name, error := some error }) :
      Tries target history adapter
        { events := [.before adapter, .called adapter words, .failed adapter executable reason,
            .skipped adapter error, .after outcome],
          result := .ok outcome }
  | unread {words : List String} {matcher : Matcher} {status : Int} {lines : List String}
      {failure : Failure} (command : adapter.buildCommand target = .ok words)
      (compiled : adapter.format.compile = .ok matcher)
      (reply : setup.runner history words = .finished status lines)
      (read : readLines matcher adapter.name lines = .error failure) :
      Tries target history adapter
        { events := [.before adapter, .called adapter words], result := .error failure }
  | executed {words : List String} {matcher : Matcher} {status : Int} {lines : List String}
      {diagnostics : List Diagnostic} {outcome : Outcome}
      (command : adapter.buildCommand target = .ok words)
      (compiled : adapter.format.compile = .ok matcher)
      (reply : setup.runner history words = .finished status lines)
      (read : readLines matcher adapter.name lines = .ok diagnostics)
      (noted : outcome = { adapter := adapter.name, status := some status, diagnostics }) :
      Tries target history adapter
        { events := [.before adapter, .called adapter words, .finished outcome status lines.length,
            .after outcome],
          result := .ok outcome }

/-- **Running one adapter comes to one of these.** What holds of all of them holds of a step of a run. -/
theorem attempt_tries (target : Option String) (history : List (List String)) (adapter : Adapter) :
    setup.Tries target history adapter (setup.attempt target history adapter) := by
  rw [attempt]
  cases hcommand : adapter.buildCommand target with
  | error failure => exact .unbuilt hcommand
  | ok words =>
      cases hmatcher : adapter.format.compile with
      | error failure => exact .uncompiled hcommand hmatcher
      | ok matcher =>
          cases hreply : setup.runner history words with
          | notStarted executable reason =>
              cases hpolicy : setup.policy with
              | abort =>
                  simp only [hreply, conclude, hpolicy]
                  exact .aborted hpolicy hcommand hmatcher hreply
              | skip =>
                  simp only [hreply, conclude, hpolicy]
                  exact .skipped hpolicy hcommand hmatcher hreply rfl rfl
          | finished status lines =>
              cases hlines : readLines matcher adapter.name lines with
              | error failure =>
                  simp only [hreply, conclude, hlines]
                  exact .unread hcommand hmatcher hreply hlines
              | ok diagnostics =>
                  simp only [hreply, conclude, hlines]
                  exact .executed hcommand hmatcher hreply hlines rfl

/-- An adapter that is completed has started exactly one command. -/
theorem gives_of_attempt {target : Option String} {history : List (List String)}
    {adapter : Adapter} {outcome : Outcome}
    (h : (setup.attempt target history adapter).result = .ok outcome) :
    ∃ words, Event.calls (setup.attempt target history adapter).events = [words]
      ∧ setup.Gives target history adapter words outcome := by
  have htries := setup.attempt_tries target history adapter
  generalize setup.attempt target history adapter = attempt at h htries ⊢
  cases htries with
  | unbuilt => cases h
  | uncompiled => cases h
  | aborted => cases h
  | unread => cases h
  | @skipped words _ _ _ _ _ policy command compiled reply text noted =>
      obtain rfl := Except.ok.inj h
      subst text noted
      exact ⟨words, rfl, .skipped policy command compiled reply⟩
  | @executed words _ _ _ _ _ command compiled reply read noted =>
      obtain rfl := Except.ok.inj h
      subst noted
      exact ⟨words, rfl, .executed command compiled reply (reads_of_readLines read)⟩

/-- A run over adapters after some commands: its outcomes are those of the first adapters in their
order, each of which was run after the commands of those before it, and either these are all adapters
or the next one fails. The commands of the run are those of the adapters in its outcomes, one for each,
and those of the adapter that fails. -/
structure Follows (target : Option String) (history : List (List String)) (adapters : List Adapter)
    (run : Run) : Prop where
  given : ∀ (i : Nat) (outcome : Outcome), run.outcomes[i]? = some outcome →
    ∃ adapter words, adapters[i]? = some adapter ∧ (Event.calls run.events)[i]? = some words
      ∧ setup.Gives target (history ++ (Event.calls run.events).take i) adapter words outcome
  ended :
    match run.failure with
    | none => run.outcomes.length = adapters.length
        ∧ (Event.calls run.events).length = adapters.length
    | some failure => ∃ adapter, adapters[run.outcomes.length]? = some adapter
        ∧ (setup.attempt target (history ++ (Event.calls run.events).take run.outcomes.length)
            adapter).result = .error failure
        ∧ (Event.calls run.events).drop run.outcomes.length
          = Event.calls (setup.attempt target
              (history ++ (Event.calls run.events).take run.outcomes.length) adapter).events

/-- **A run goes through the adapters in order, up to the first that fails.** -/
theorem runFrom_follows (target : Option String) (history : List (List String))
    (adapters : List Adapter) :
    setup.Follows target history adapters (setup.runFrom target history adapters) := by
  induction adapters generalizing history with
  | nil => exact ⟨fun i outcome h => by simp [runFrom] at h, rfl, rfl⟩
  | cons adapter rest ih =>
      cases hresult : (setup.attempt target history adapter).result with
      | error failure =>
          rw [runFrom_failure hresult]
          refine ⟨fun i outcome h => by simp at h, adapter, rfl, ?_, ?_⟩
          · simpa using hresult
          · simp
      | ok outcome =>
          obtain ⟨words, hcalls, hgives⟩ := setup.gives_of_attempt hresult
          obtain ⟨hgiven, hended⟩ := ih (history ++ [words])
          rw [runFrom_outcome hresult hcalls]
          -- one command more in front, on the side of the history or on that of the run
          have hshift : ∀ n (calls : List (List String)),
              history ++ [words] ++ calls.take n = history ++ ([words] ++ calls).take (n + 1) := by
            intro n calls
            simp
          refine ⟨?_, ?_⟩
          · intro i found h
            simp only [Event.calls_append, hcalls]
            cases i with
            | zero =>
                simp only [List.getElem?_cons_zero, Option.some.injEq] at h
                subst h
                exact ⟨adapter, words, rfl, rfl, by simpa using hgives⟩
            | succ i =>
                obtain ⟨adapter', words', hadapter, hwords, hgives'⟩ := hgiven i found h
                exact ⟨adapter', words', hadapter, hwords, by rwa [← hshift]⟩
          · cases hfailure : (setup.runFrom target (history ++ [words]) rest).failure with
            | none =>
                rw [hfailure] at hended
                simp only [Event.calls_append, hcalls, List.length_append, List.length_cons]
                simp only [List.length_nil]
                omega
            | some failure =>
                rw [hfailure] at hended
                obtain ⟨adapter', hadapter, herror, hdrop⟩ := hended
                refine ⟨adapter', hadapter, ?_⟩
                rw [Event.calls_append, hcalls, List.length_cons, ← hshift]
                exact ⟨herror, hdrop⟩

/-- A run fails with an adapter, the one behind those that it completed. -/
theorem exists_attempt_of_failure {target : Option String} {history : List (List String)}
    {adapters : List Adapter} {failure : Failure}
    (h : (setup.runFrom target history adapters).failure = some failure) :
    ∃ adapter history',
      adapters[(setup.runFrom target history adapters).outcomes.length]? = some adapter ∧
        (setup.attempt target history' adapter).result = .error failure := by
  have hended := (setup.runFrom_follows target history adapters).ended
  rw [h] at hended
  obtain ⟨adapter, hadapter, herror, -⟩ := hended
  exact ⟨adapter, _, hadapter, herror⟩

end Setup

end LintRunner
