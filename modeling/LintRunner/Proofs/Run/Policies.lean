import LintRunner.Proofs.Adapter.Command
import LintRunner.Proofs.Format.Compilation
import LintRunner.Proofs.Results
import LintRunner.Proofs.Run.Modes

/-!
# The two policies

Runs under the two policies do the same up to the first command that cannot be started. There the run
that aborts ends, and the run that skips notes the failure and goes on (`Setup.runFrom_policies`). What
is not about starting a tool, an unknown language or a missing target, fails alike under both
(`Setup.policies_agree`).
-/

set_option autoImplicit false

namespace LintRunner

/-! ## Calls that cannot be started -/

def Reply.isRefusal : Reply → Bool
  | .notStarted .. => true
  | .finished .. => false

def Runner.Starts (runner : Runner) (history calls : List (List String)) : Prop :=
  ∀ (i : Nat) (words : List String), calls[i]? = some words →
    (runner (history ++ calls.take i) words).isRefusal = false

/-- The call at a place is the first of some calls that could not be started. -/
structure Runner.Refuses (runner : Runner) (history calls : List (List String)) (i : Nat)
    (executable reason : String) : Prop where
  refused : ∃ words, calls[i]? = some words ∧
    runner (history ++ calls.take i) words = .notStarted executable reason
  earlier : runner.Starts history (calls.take i)

theorem Runner.starts_nil (runner : Runner) (history : List (List String)) :
    runner.Starts history [] := by
  intro i words h
  simp at h

theorem Runner.starts_cons {runner : Runner} {history calls : List (List String)}
    {words : List String} (hfirst : (runner history words).isRefusal = false)
    (hrest : runner.Starts (history ++ [words]) calls) :
    runner.Starts history (words :: calls) := by
  intro i words' h
  cases i with
  | zero =>
      simp only [List.getElem?_cons_zero, Option.some.injEq] at h
      subst h
      simpa using hfirst
  | succ i => simpa using hrest i words' h

theorem Runner.refuses_cons {runner : Runner} {history calls : List (List String)}
    {words : List String} {i : Nat} {executable reason : String}
    (hfirst : (runner history words).isRefusal = false)
    (hrest : runner.Refuses (history ++ [words]) calls i executable reason) :
    runner.Refuses history (words :: calls) (i + 1) executable reason := by
  obtain ⟨words', hwords, hreply⟩ := hrest.refused
  exact ⟨⟨words', hwords, by simpa using hreply⟩, Runner.starts_cons hfirst hrest.earlier⟩

/-! ## Kinds of failures -/

def Failure.isRefusal : Failure → Bool
  | .toolNotStarted .. => true
  | _ => false

def Failure.isOfFormat : Failure → Bool
  | .unknownSeverity _ | .format _ | .countTooLarge | .digitLimit _ | .absentGroup | .absentPosition
  | .absentLabel => true
  | _ => false

theorem Failure.isRefusal_of_isOfFormat {failure : Failure} (h : failure.isOfFormat = true) :
    failure.isRefusal = false := by
  cases failure with
  | toolNotStarted executable reason => cases h
  | _ => rfl

theorem capturedAt_error {m : Regex.Match} {index : Nat} {failure : Failure}
    (h : capturedAt m index = .error failure) : failure.isOfFormat = true := by
  rw [capturedAt] at h
  split at h
  · cases h
  · injection h with h
    exact h ▸ rfl

theorem positionAt_error {m : Regex.Match} {index : Nat} {failure : Failure}
    (h : positionAt m index = .error failure) : failure.isOfFormat = true := by
  rcases bind_error h with h | ⟨captured, -, h⟩
  · exact capturedAt_error h
  · cases captured with
    | none => injection h with h; exact h ▸ rfl
    | some text => simp only [pure, Except.pure] at h; split at h <;> cases h

theorem fillField_error {m : Regex.Match} {index : Nat} {lastMessage : Option String}
    {fields : Fields} {token : Token} {failure : Failure}
    (h : fillField m index lastMessage fields token = .error failure) :
    failure.isOfFormat = true := by
  cases token with
  | literal text => cases h
  | whitespace => cases h
  | severityFromMessage source classifier =>
      rw [fillField] at h
      split at h <;> cases h
  | severityFixed level =>
      cases level with
      | known severity => cases h
      | unknown word => injection h with h; exact h ▸ rfl
  | filename | code lead optional | message name =>
      rcases bind_error h with h | ⟨captured, -, h⟩
      · exact capturedAt_error h
      · cases h
  | line | column =>
      rcases bind_error h with h | ⟨position, -, h⟩
      · exact positionAt_error h
      · simp only [pure, Except.pure] at h
        split at h <;> cases h
  | severityPattern pattern labels classifier =>
      rcases bind_error h with h | ⟨captured, -, h⟩
      · exact capturedAt_error h
      · cases captured with
        | none => injection h with h; exact h ▸ rfl
        | some label =>
            simp only [pure, Except.pure] at h
            split at h
            · cases h
            · injection h with h
              exact h ▸ rfl

theorem fillFields_error {m : Regex.Match} {index : Nat} {lastMessage : Option String}
    {fields : Fields} {tokens : List Token} {failure : Failure}
    (h : fillFields m index lastMessage fields tokens = .error failure) :
    failure.isOfFormat = true := by
  induction tokens generalizing index lastMessage fields with
  | nil => cases h
  | cons token rest ih =>
      rcases bind_error h with h | ⟨filled, -, h⟩
      · exact fillField_error h
      · cases filled with
        | none => cases h
        | some fields' => exact ih h

theorem Matcher.apply_error {matcher : Matcher} {line : String} {failure : Failure}
    (h : matcher.apply line = .error failure) : failure.isOfFormat = true := by
  rw [Matcher.apply] at h
  split at h
  · cases h
  · rcases bind_error h with h | ⟨filled, -, h⟩
    · exact fillFields_error h
    · cases filled <;> cases h

theorem readLines_error {matcher : Matcher} {tool : String} {lines : List String}
    {failure : Failure} (h : readLines matcher tool lines = .error failure) :
    failure.isOfFormat = true := by
  induction lines with
  | nil => cases h
  | cons line lines ih =>
      rw [readLines] at h
      split at h
      · rename_i failure' happly
        injection h with h
        exact h ▸ Matcher.apply_error happly
      · exact ih h
      · cases hrest : readLines matcher tool lines with
        | error failure' =>
            simp only [hrest, Except.map, Except.error.injEq] at h
            subst h
            exact ih hrest
        | ok rest => simp [hrest, Except.map] at h

theorem Format.compile_error {format : Format} {failure : Failure}
    (h : format.compile = .error failure) : failure.isOfFormat = true := by
  obtain ⟨word, -, rfl⟩ | rfl | ⟨-, rfl⟩ | ⟨digits, -, rfl⟩ := Format.compile_eq_error h <;> rfl

/-- A format fails for a tool: it cannot be compiled, or some lines cannot be read with it. -/
inductive Format.Fails (format : Format) (tool : String) (failure : Failure) : Prop
  | uncompiled (compiled : format.compile = .error failure)
  | unread {matcher : Matcher} {lines : List String} (compiled : format.compile = .ok matcher)
      (read : readLines matcher tool lines = .error failure)

theorem Format.Fails.isOfFormat {format : Format} {tool : String} {failure : Failure}
    (h : format.Fails tool failure) : failure.isOfFormat = true := by
  cases h with
  | uncompiled compiled => exact Format.compile_error compiled
  | unread _ read => exact readLines_error read

/-! ## One adapter under both policies -/

namespace Setup

/-- **Why an adapter fails:** its format does, or it lacks a target, or its command cannot be started and
the policy is to abort. -/
theorem attempt_failure (setup : Setup) {target : Option String} {history : List (List String)}
    {adapter : Adapter} {failure : Failure}
    (h : (setup.attempt target history adapter).result = .error failure) :
    adapter.format.Fails adapter.name failure ∨
      (failure = .targetRequired adapter.name ∧ adapter.requiresTarget = true ∧ target = none) ∨
      setup.policy = .abort ∧ ∃ executable reason, failure = .toolNotStarted executable reason := by
  have htries := setup.attempt_tries target history adapter
  generalize setup.attempt target history adapter = attempt at h htries
  cases htries with
  | unbuilt command =>
      obtain rfl := Except.error.inj h
      exact Or.inr (Or.inl (Adapter.buildCommand_error command))
  | uncompiled _ compiled =>
      obtain rfl := Except.error.inj h
      exact Or.inl (.uncompiled compiled)
  | aborted policy => exact Or.inr (Or.inr ⟨policy, _, _, (Except.error.inj h).symm⟩)
  | skipped => cases h
  | unread _ compiled _ read =>
      obtain rfl := Except.error.inj h
      exact Or.inl (.unread compiled read)
  | executed => cases h

section

variable (registry : Registry) (runner : Runner) (target : Option String)
  (history : List (List String))

/-- Either an adapter does the same under both policies, and its command can be started if it comes to
that, or its command is refused: then one policy fails with the refusal and the other notes it. -/
theorem attempt_policies (adapter : Adapter) :
    let abort := attempt { registry, policy := .abort, runner } target history adapter
    let skip := attempt { registry, policy := .skip, runner } target history adapter
    (abort = skip ∧ runner.Starts history (Event.calls skip.events)) ∨
    ∃ words executable reason, runner history words = .notStarted executable reason
      ∧ Event.calls abort.events = [words] ∧ Event.calls skip.events = [words]
      ∧ abort.result = .error (.toolNotStarted executable reason)
      ∧ ∃ outcome, skip.result = .ok outcome := by
  intro abort skip
  simp only [abort, skip, attempt]
  cases adapter.buildCommand target with
  | error failure => exact Or.inl ⟨rfl, runner.starts_nil history⟩
  | ok words =>
      cases adapter.format.compile with
      | error failure => exact Or.inl ⟨rfl, runner.starts_nil history⟩
      | ok matcher =>
          simp only
          cases hreply : runner history words with
          | notStarted executable reason =>
              exact Or.inr ⟨words, executable, reason, hreply, rfl, rfl, rfl, _, rfl⟩
          | finished status lines =>
              left
              simp only [conclude]
              have hstarts : runner.Starts history [words] :=
                Runner.starts_cons (by rw [hreply]; rfl) (runner.starts_nil _)
              cases readLines matcher adapter.name lines with
              | error failure => exact ⟨trivial, hstarts⟩
              | ok diagnostics => exact ⟨trivial, hstarts⟩

/-- An adapter that is skipped does not fail with a refusal. -/
theorem attempt_skip_error {adapter : Adapter} {failure : Failure}
    (h : (attempt { registry, policy := .skip, runner } target history adapter).result
      = .error failure) : failure.isRefusal = false := by
  obtain hfails | ⟨rfl, -⟩ | ⟨hpolicy, -⟩ := attempt_failure _ h
  · exact Failure.isRefusal_of_isOfFormat hfails.isOfFormat
  · rfl
  · cases hpolicy

/-! ## Whole runs under both policies -/

/-- **A run that aborts is a run that skips, cut at the first refusal.** -/
theorem runFrom_policies (adapters : List Adapter) :
    let abort := runFrom { registry, policy := .abort, runner } target history adapters
    let skip := runFrom { registry, policy := .skip, runner } target history adapters
    (abort = skip ∧ runner.Starts history (Event.calls skip.events)) ∨
    ∃ i executable reason,
      runner.Refuses history (Event.calls skip.events) i executable reason
      ∧ Event.calls abort.events = (Event.calls skip.events).take (i + 1)
      ∧ abort.outcomes = skip.outcomes.take i
      ∧ i < skip.outcomes.length
      ∧ abort.failure = some (.toolNotStarted executable reason) := by
  induction adapters generalizing history with
  | nil => exact Or.inl ⟨rfl, runner.starts_nil history⟩
  | cons adapter rest ih =>
      intro abort skip
      simp only [abort, skip]
      rcases attempt_policies registry runner target history adapter with
        ⟨hsame, hstarts⟩ | ⟨words, executable, reason, hreply, hcalls, hcalls', herror, outcome, hok⟩
      · cases hresult : (attempt { registry, policy := .skip, runner } target history adapter).result
          with
        | error failure =>
            rw [runFrom_failure hresult, runFrom_failure (hsame ▸ hresult), hsame]
            exact Or.inl ⟨rfl, hstarts⟩
        | ok outcome =>
            obtain ⟨words, hcalls, -⟩ := gives_of_attempt _ hresult
            rw [runFrom_outcome hresult hcalls, runFrom_outcome (hsame ▸ hresult) (hsame ▸ hcalls),
              hsame]
            rw [hcalls] at hstarts
            have hfirst : (runner history words).isRefusal = false := by
              simpa using hstarts 0 words rfl
            simp only [hcalls, Event.calls_append]
            rcases ih (history ++ [words]) with ⟨hrest, hstarts'⟩
              | ⟨i, executable, reason, hrefuses, hcalls', houtcomes, hlt, hfailure⟩
            · left
              rw [hrest]
              exact ⟨rfl, Runner.starts_cons hfirst hstarts'⟩
            · right
              refine ⟨i + 1, executable, reason, Runner.refuses_cons hfirst hrefuses, ?_, ?_, ?_,
                hfailure⟩
              · rw [hcalls']; rfl
              · rw [houtcomes]; rfl
              · exact Nat.succ_lt_succ hlt
      · -- the refusal of this adapter is the first one
        right
        rw [runFrom_failure herror, runFrom_outcome hok hcalls']
        simp only [Event.calls_append, hcalls, hcalls']
        exact ⟨0, executable, reason, ⟨⟨words, rfl, by simpa using hreply⟩, runner.starts_nil _⟩,
          rfl, rfl, Nat.succ_pos _, rfl⟩

theorem runFrom_skip_failure (adapters : List Adapter) {failure : Failure}
    (h : (runFrom { registry, policy := .skip, runner } target history adapters).failure
      = some failure) : failure.isRefusal = false := by
  obtain ⟨adapter, history', -, herror⟩ := exists_attempt_of_failure _ h
  exact attempt_skip_error registry runner target _ herror

end

/-! ## Warnings -/

section

variable (setup : Setup)

def warningOf (outcome : Outcome) : Option (LogLevel × String) :=
  outcome.error.map fun error =>
    (.warning, "skipping adapter " ++ outcome.adapter ++ ": " ++ error)

def warnings (events : List Event) : List (LogLevel × String) :=
  (Event.logs events).filter fun entry => entry.1 == .warning

theorem warnings_append (a b : List Event) : warnings (a ++ b) = warnings a ++ warnings b := by
  rw [warnings, Event.logs, List.filterMap_append, List.filter_append]
  rfl

/-- An adapter logs a warning exactly if it is skipped. -/
theorem attempt_warnings (target : Option String) (history : List (List String)) (adapter : Adapter) :
    warnings (setup.attempt target history adapter).events =
      match (setup.attempt target history adapter).result with
      | .ok outcome => (warningOf outcome).toList
      | .error _ => [] := by
  have htries := setup.attempt_tries target history adapter
  generalize setup.attempt target history adapter = attempt at htries ⊢
  cases htries with
  | unbuilt => rfl
  | uncompiled => rfl
  | aborted => rfl
  | skipped _ _ _ _ _ noted =>
      subst noted
      rfl
  | unread => rfl
  | executed _ _ _ _ noted =>
      subst noted
      rfl

/-- A run logs one warning for each outcome that was skipped, in their order. -/
theorem runFrom_warnings (target : Option String) (history : List (List String))
    (adapters : List Adapter) :
    warnings (setup.runFrom target history adapters).events
      = (setup.runFrom target history adapters).outcomes.filterMap warningOf := by
  induction adapters generalizing history with
  | nil => rfl
  | cons adapter rest ih =>
      have hattempt := setup.attempt_warnings target history adapter
      cases hresult : (setup.attempt target history adapter).result with
      | error failure =>
          rw [hresult] at hattempt
          rw [runFrom_failure hresult]
          exact hattempt
      | ok outcome =>
          rw [hresult] at hattempt
          rw [runFrom_outcome hresult rfl]
          simp only [warnings_append, hattempt, ih, List.filterMap_cons]
          cases warningOf outcome <;> rfl

end

/-! ## Missing targets -/

/-- An adapter that needs a target which is missing fails before its command is started. -/
theorem attempt_targetRequired (setup : Setup) (history : List (List String)) {adapter : Adapter}
    (h : adapter.requiresTarget = true) :
    setup.attempt none history adapter
      = { events := [.before adapter], result := .error (.targetRequired adapter.name) } := by
  simp [attempt, Adapter.buildCommand, h]

/-- **Without a target a run gets no further than the first adapter that needs one.** -/
theorem runFrom_targetRequired (setup : Setup) (history : List (List String))
    {adapters : List Adapter} {i : Nat} {adapter : Adapter} (hadapter : adapters[i]? = some adapter)
    (hrequires : adapter.requiresTarget = true)
    (hreached : i ≤ (setup.runFrom none history adapters).outcomes.length) :
    (setup.runFrom none history adapters).outcomes.length = i
      ∧ (Event.calls (setup.runFrom none history adapters).events).length = i
      ∧ (setup.runFrom none history adapters).failure = some (.targetRequired adapter.name) := by
  obtain ⟨hgiven, hended⟩ := setup.runFrom_follows none history adapters
  generalize setup.runFrom none history adapters = run at *
  have hlength : run.outcomes.length = i := by
    refine Nat.le_antisymm (Nat.le_of_not_lt fun hlt => ?_) hreached
    -- an outcome of this adapter would need its command
    obtain ⟨adapter', words, hadapter', -, hgives⟩ :=
      hgiven i run.outcomes[i] (List.getElem?_eq_getElem hlt)
    obtain rfl : adapter = adapter' := by simpa [hadapter] using hadapter'
    have hcommand : adapter.buildCommand none = .ok words := by
      generalize run.outcomes[i] = outcome at hgives
      cases hgives <;> assumption
    simp [Adapter.buildCommand, hrequires] at hcommand
  refine ⟨hlength, ?_⟩
  cases hfailure : run.failure with
  | none =>
      rw [hfailure] at hended
      have hlt := (List.getElem?_eq_some_iff.mp hadapter).1
      omega
  | some failure =>
      rw [hfailure] at hended
      obtain ⟨adapter', hadapter', herror, hdrop⟩ := hended
      obtain rfl : adapter = adapter' := by simpa [hlength, hadapter] using hadapter'
      rw [setup.attempt_targetRequired _ hrequires] at herror hdrop
      injection herror with herror
      have hle : (Event.calls run.events).length ≤ i := by
        rw [hlength] at hdrop
        exact List.drop_eq_nil_iff.mp hdrop
      refine ⟨?_, by rw [herror]⟩
      refine Nat.le_antisymm hle ?_
      cases i with
      | zero => exact Nat.zero_le _
      | succ i =>
          obtain ⟨-, words, -, hwords, -⟩ :=
            hgiven i _ (List.getElem?_eq_getElem (show i < run.outcomes.length by omega))
          exact (List.getElem?_eq_some_iff.mp hwords).1

/-! ## The policies side by side -/

theorem adaptersFor_error {registry : Registry} {tag : String} {failure : Failure}
    (h : registry.adaptersFor tag = .error failure) : failure.isRefusal = false := by
  rw [Registry.adaptersFor] at h
  split at h
  · injection h with h
    exact h ▸ rfl
  · obtain ⟨name, -, h⟩ := mapM_error h
    rw [Registry.get] at h
    split at h
    · cases h
    · injection h with h
      exact h ▸ rfl

/-- What an outcome says about the reply to the command of its adapter. -/
theorem Gives.reply {setup : Setup} {target : Option String} {history : List (List String)}
    {adapter : Adapter} {words : List String} {outcome : Outcome}
    (h : setup.Gives target history adapter words outcome) :
    outcome.adapter = adapter.name ∧
      match setup.runner history words with
      | .finished status _ => outcome.status = some status ∧ outcome.error = none
      | .notStarted executable reason =>
          outcome.error = some s!"cannot execute {executable} ({reason})"
            ∧ outcome.status = none ∧ outcome.diagnostics = [] := by
  cases h with
  | executed command compiled reply reads => rw [reply]; exact ⟨rfl, rfl, rfl⟩
  | skipped policy command compiled reply => rw [reply]; exact ⟨rfl, rfl, rfl, rfl⟩

/-- **The two policies are related.** Under both, a run makes the same calls up to the first that is
refused. There the run that aborts fails with that refusal, and all its outcomes are those of the run
that skips; if no call is refused the runs are the same. A run that skips never fails with a refusal:
it goes through all adapters in order, a refused adapter has an outcome with the text of the refusal
and nothing else, and one warning is logged for it. An unknown language fails before anything is
called, and a missing target at the first adapter that needs it, before that adapter is called. -/
theorem policies_agree (registry : Registry) (runner : Runner) (history : List (List String))
    (language : String) (target : Option String) :
    let setup := fun policy => ({ registry, policy, runner } : Setup)
    let abort := (setup .abort).run history language target
    let skip := (setup .skip).run history language target
    let calls := Event.calls skip.events
    ((abort = skip ∧ runner.Starts history calls) ∨
      ∃ i executable reason, runner.Refuses history calls i executable reason
        ∧ Event.calls abort.events = calls.take (i + 1)
        ∧ abort.outcomes = skip.outcomes.take i
        ∧ i < skip.outcomes.length
        ∧ abort.failure = some (.toolNotStarted executable reason)) ∧
    (∀ failure, skip.failure = some failure → failure.isRefusal = false) ∧
    (∀ adapters, registry.adaptersFor language = .ok adapters →
      (skip.failure = none → skip.outcomes.length = adapters.length) ∧
      ∀ i outcome, skip.outcomes[i]? = some outcome →
        ∃ adapter words, adapters[i]? = some adapter ∧ calls[i]? = some words
          ∧ outcome.adapter = adapter.name
          ∧ match runner (history ++ calls.take i) words with
            | .finished status _ => outcome.status = some status ∧ outcome.error = none
            | .notStarted executable reason =>
                outcome.error = some s!"cannot execute {executable} ({reason})"
                  ∧ outcome.status = none ∧ outcome.diagnostics = []) ∧
    warnings skip.events = skip.outcomes.filterMap warningOf ∧
    (∀ policy, registry.languages.lookup (normalizeLanguage language) = none →
      (setup policy).run history language target
        = { events := [], outcomes := [], failure := some (.unsupportedLanguage language) }) ∧
    (∀ policy adapters i adapter, target = none → registry.adaptersFor language = .ok adapters →
      adapters[i]? = some adapter → adapter.requiresTarget = true →
      let run := (setup policy).run history language target
      i ≤ run.outcomes.length → run.outcomes.length = i ∧ (Event.calls run.events).length = i
        ∧ run.failure = some (.targetRequired adapter.name)) := by
  intro setup abort skip calls
  have hunsupported : registry.languages.lookup (normalizeLanguage language) = none →
      registry.adaptersFor language = .error (.unsupportedLanguage language) := by
    intro h
    rw [Registry.adaptersFor, h]
  cases hadapters : registry.adaptersFor language with
  | error failure =>
      -- under both policies nothing is run at all
      have hrun : ∀ policy, (setup policy).run history language target
          = { events := [], outcomes := [], failure := some failure } :=
        fun policy => run_of_no_adapters hadapters history target
      simp only [abort, skip, calls, hrun]
      refine ⟨Or.inl ⟨trivial, runner.starts_nil history⟩, ?_, ?_, rfl, ?_, ?_⟩
      · rintro _ ⟨⟩
        exact adaptersFor_error hadapters
      · intro adapters h
        cases h
      · intro policy h
        rw [hunsupported h] at hadapters
        injection hadapters with hadapters
        rw [hadapters]
      · intro policy adapters i adapter _ h
        cases h
  | ok adapters =>
      have hrun : ∀ policy, (setup policy).run history language target
          = (setup policy).runFrom target history adapters :=
        fun policy => run_of_adapters hadapters history target
      simp only [abort, skip, calls, hrun]
      have hfollows := (setup .skip).runFrom_follows target history adapters
      refine ⟨runFrom_policies registry runner target history adapters, ?_, ?_, ?_, ?_, ?_⟩
      · intro failure h
        exact runFrom_skip_failure registry runner target history adapters h
      · rintro _ ⟨⟩
        refine ⟨fun h => ?_, fun i outcome h => ?_⟩
        · have hended := hfollows.ended
          rw [h] at hended
          exact hended.1
        · obtain ⟨adapter, words, hadapter, hwords, hgives⟩ := hfollows.given i outcome h
          exact ⟨adapter, words, hadapter, hwords, hgives.reply⟩
      · exact (setup .skip).runFrom_warnings target history adapters
      · intro policy h
        rw [hunsupported h] at hadapters
        cases hadapters
      · rintro policy _ i adapter rfl ⟨⟩ hadapter hrequires hreached
        exact (setup policy).runFrom_targetRequired history hadapter hrequires hreached

end Setup

end LintRunner
