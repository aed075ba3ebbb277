import LintRunner.Proofs.Config.Registry
import LintRunner.Proofs.Run.Agreement
import LintRunner.Proofs.Run.Policies

/-!
# The protocol of hooks

Around each adapter the hooks of a run are called in a block: before it, then on its error if its tool
could not be started, then after it with its outcome. Blocks follow each other in the order of the
adapters, and if the run fails the last one is cut short where it fails (`Setup.hooks_bracketed`). Between
the first hook of a block and the next there is one command, unless the adapter was not ready to be run.
-/

set_option autoImplicit false

namespace LintRunner

/-! ## Hooks and blocks -/

namespace Event

def isHook : Event → Bool
  | before _ | failed .. | after _ => true
  | called .. | skipped .. | finished .. => false

def hooks (events : List Event) : List Event := events.filter isHook

/-- Whether an event is the call of a hook or the start of a command, and not just a line of the log. -/
def isAction : Event → Bool
  | before _ | called .. | failed .. | after _ => true
  | skipped .. | finished .. => false

def actions (events : List Event) : List Event := events.filter isAction

theorem hooks_append (a b : List Event) : hooks (a ++ b) = hooks a ++ hooks b := List.filter_append ..

theorem actions_append (a b : List Event) : actions (a ++ b) = actions a ++ actions b :=
  List.filter_append ..

end Event

/-- What a run shows of one adapter: its command, if one was started, why that could not be started, if so,
and its outcome, if the run was not ended before there was one. -/
structure Block where
  adapter : Adapter
  words : Option (List String)
  refusal : Option (String × String)
  outcome : Option Outcome

namespace Block

def ending (block : Block) : List Event :=
  (block.refusal.map fun (executable, reason) => .failed block.adapter executable reason).toList ++
    (block.outcome.map Event.after).toList

def hooks (block : Block) : List Event := .before block.adapter :: block.ending

def actions (block : Block) : List Event :=
  .before block.adapter :: (block.words.map (.called block.adapter)).toList ++ block.ending

end Block

/-- An adapter is not ready to be run: it needs a target and there is none, or its format cannot be
compiled. -/
def Adapter.Unready (adapter : Adapter) (target : Option String) : Prop :=
  (adapter.requiresTarget = true ∧ target = none) ∨
    ∃ failure, adapter.format.compile = .error failure

namespace Setup

section

variable (setup : Setup) (target : Option String) (history : List (List String))

/-- The tool of an adapter that is ready cannot be started after the given commands. -/
def Refuses (adapter : Adapter) (executable reason : String) : Prop :=
  ¬ adapter.Unready target ∧ ∃ words, adapter.buildCommand target = .ok words ∧
    setup.runner history words = .notStarted executable reason

/-- A complete block: exactly one command, an error if and only if it could not be started, which happens
in runs that skip only, and the outcome that the command gives. -/
structure Complete (block : Block) : Prop where
  ready : ¬ block.adapter.Unready target
  refused : ∀ executable reason, block.refusal = some (executable, reason) ↔
    setup.Refuses target history block.adapter executable reason
  skips : block.refusal ≠ none → setup.policy = .skip
  given : ∃ words outcome, block.words = some words ∧ block.outcome = some outcome ∧
    setup.Gives target history block.adapter words outcome

/-- A block that is cut short by a failure: nothing comes after its first hook if and only if the adapter is
not ready, and one command and its error if and only if that could not be started and the run aborts. -/
structure Truncated (block : Block) (failure : Failure) : Prop where
  unfinished : block.outcome = none
  bare : (block.words = none ∧ block.refusal = none) ↔ block.adapter.Unready target
  called : ∀ words, block.words = some words ↔
    block.refusal ≠ none ∧ block.adapter.buildCommand target = .ok words
  refused : ∀ executable reason, block.refusal = some (executable, reason) ↔
    setup.policy = .abort ∧ setup.Refuses target history block.adapter executable reason
  failure : match block.refusal with
    | some (executable, reason) => failure = .toolNotStarted executable reason
    | none => failure = .targetRequired block.adapter.name ∨
        block.adapter.format.compile = .error failure

/-- A run over adapters in blocks: complete ones for its outcomes, and a last one that is cut short if the
run fails. Each is about the next adapter, run after the commands of the blocks before it. -/
structure Bracketed (adapters : List Adapter) (run : Run) (blocks : List Block) (last : Option Block) :
    Prop where
  hooks : Event.hooks run.events = (blocks ++ last.toList).flatMap Block.hooks
  actions : Event.actions run.events = (blocks ++ last.toList).flatMap Block.actions
  order : (blocks ++ last.toList).map Block.adapter <+: adapters
  outcomes : blocks.map Block.outcome = run.outcomes.map some
  complete : ∀ before block after, blocks = before ++ block :: after →
    setup.Complete target (history ++ before.filterMap Block.words) block
  ended :
    match last with
    | none => run.failure = none ∧ blocks.length = adapters.length
    | some block => ∃ failure, run.failure = some failure ∧
        setup.Truncated target (history ++ blocks.filterMap Block.words) block failure

end

/-! ## One adapter -/

structure Shows (events : List Event) (block : Block) : Prop where
  hooks : Event.hooks events = block.hooks
  actions : Event.actions events = block.actions
  calls : Event.calls events = block.words.toList

variable {setup : Setup} {target : Option String} {history : List (List String)} {adapter : Adapter}

theorem not_unready {words : List String} {matcher : Matcher}
    (hcommand : adapter.buildCommand target = .ok words)
    (hmatcher : adapter.format.compile = .ok matcher) : ¬ adapter.Unready target := by
  rintro (⟨hrequires, rfl⟩ | ⟨failure, hfailure⟩)
  · rw [Adapter.buildCommand, if_pos hrequires] at hcommand
    cases hcommand
  · rw [hmatcher] at hfailure
    cases hfailure

/-- Once the command is known, a tool is refused exactly if the reply to that command says so. -/
theorem refuses_iff (setup : Setup) (history : List (List String)) {words : List String}
    {matcher : Matcher} (hcommand : adapter.buildCommand target = .ok words)
    (hmatcher : adapter.format.compile = .ok matcher) (executable reason : String) :
    setup.Refuses target history adapter executable reason ↔
      setup.runner history words = .notStarted executable reason := by
  constructor
  · rintro ⟨-, words', hwords', hreply⟩
    obtain rfl := Except.ok.inj (hcommand.symm.trans hwords')
    exact hreply
  · exact fun hreply => ⟨not_unready hcommand hmatcher, words, hcommand, hreply⟩

theorem refused_iff {words : List String} {matcher : Matcher} {executable reason : String}
    (hcommand : adapter.buildCommand target = .ok words)
    (hmatcher : adapter.format.compile = .ok matcher)
    (hreply : setup.runner history words = .notStarted executable reason)
    (executable' reason' : String) :
    some (executable, reason) = some (executable', reason') ↔
      setup.Refuses target history adapter executable' reason' := by
  rw [setup.refuses_iff history hcommand hmatcher, hreply]
  simp

/-- An adapter that is not ready is announced, and nothing else. -/
theorem exists_truncated_of_unready {failure : Failure} (hunready : adapter.Unready target)
    (hfailure : failure = .targetRequired adapter.name ∨ adapter.format.compile = .error failure) :
    ∃ block, block.adapter = adapter ∧ Shows [.before adapter] block ∧
      setup.Truncated target history block failure := by
  have hrefuses : ∀ executable reason, ¬ setup.Refuses target history adapter executable reason :=
    fun _ _ h => h.1 hunready
  exact ⟨⟨adapter, none, none, none⟩, rfl, ⟨rfl, rfl, rfl⟩,
    { unfinished := rfl
      bare := ⟨fun _ => hunready, fun _ => ⟨rfl, rfl⟩⟩
      called := by simp
      refused := by simp [hrefuses]
      failure := hfailure }⟩

/-- **What one adapter does is one block**, complete if the adapter is completed and cut short if it
fails. -/
theorem exists_block (setup : Setup) (target : Option String) (history : List (List String))
    (hreadable : ∀ matcher, adapter.format.compile = .ok matcher →
      ∀ line, ∃ found, matcher.apply line = .ok found) :
    ∃ block, block.adapter = adapter ∧ Shows (setup.attempt target history adapter).events block ∧
      match (setup.attempt target history adapter).result with
      | .ok outcome => setup.Complete target history block ∧ block.outcome = some outcome
      | .error failure => setup.Truncated target history block failure := by
  have htries := setup.attempt_tries target history adapter
  generalize setup.attempt target history adapter = attempt at htries ⊢
  cases htries with
  | unbuilt hcommand =>
      obtain ⟨hfailure, hrequires, htarget⟩ := Adapter.buildCommand_error hcommand
      exact exists_truncated_of_unready (Or.inl ⟨hrequires, htarget⟩) (Or.inl hfailure)
  | uncompiled _ hmatcher =>
      exact exists_truncated_of_unready (Or.inr ⟨_, hmatcher⟩) (Or.inr hmatcher)
  | @aborted words _ executable reason hpolicy hcommand hmatcher hreply =>
      refine ⟨⟨adapter, some words, some (executable, reason), none⟩, rfl, ⟨rfl, rfl, rfl⟩, ?_⟩
      exact
        { unfinished := rfl
          bare := by simpa using not_unready hcommand hmatcher
          called := by simp [hcommand]
          refused := fun executable' reason' =>
            (refused_iff hcommand hmatcher hreply executable' reason').trans
              (and_iff_right hpolicy).symm
          failure := rfl }
  | @skipped words _ executable reason _ _ hpolicy hcommand hmatcher hreply text noted =>
      subst text noted
      exact ⟨⟨adapter, some words, some (executable, reason), some _⟩, rfl, ⟨rfl, rfl, rfl⟩,
        ⟨not_unready hcommand hmatcher, refused_iff hcommand hmatcher hreply, fun _ => hpolicy, words, _,
          rfl, rfl, .skipped hpolicy hcommand hmatcher hreply⟩, rfl⟩
  | unread _ hmatcher _ hread =>
      -- there is an answer for every line, so lines can always be read
      obtain ⟨diagnostics, hlines⟩ := exists_readLines adapter.name (hreadable _ hmatcher) _
      cases hread.symm.trans hlines
  | @executed words _ _ _ _ _ hcommand hmatcher hreply hread noted =>
      subst noted
      refine ⟨⟨adapter, some words, none, some _⟩, rfl, ⟨rfl, rfl, rfl⟩,
        ⟨not_unready hcommand hmatcher, ?_, fun h => absurd rfl h, words, _, rfl, rfl,
          .executed hcommand hmatcher hreply (reads_of_readLines hread)⟩, rfl⟩
      intro executable reason
      rw [setup.refuses_iff history hcommand hmatcher, hreply]
      simp

/-! ## Whole runs -/

/-- A complete block in front of a run in blocks gives a run in blocks. -/
theorem Bracketed.cons {events : List Event} {block : Block} {outcome : Outcome} {adapters : List Adapter}
    {run : Run} {blocks : List Block} {last : Option Block} (hshows : Shows events block)
    (hcomplete : setup.Complete target history block) (houtcome : block.outcome = some outcome)
    (hrest : setup.Bracketed target (history ++ Event.calls events) adapters run blocks last) :
    setup.Bracketed target history (block.adapter :: adapters)
      { events := events ++ run.events, outcomes := outcome :: run.outcomes, failure := run.failure }
      (block :: blocks) last := by
  -- the commands before a later block are those of this one and those between them
  have hhistory : ∀ between : List Block,
      history ++ Event.calls events ++ between.filterMap Block.words
        = history ++ (block :: between).filterMap Block.words := by
    intro between
    obtain ⟨words, -, hwords, -⟩ := hcomplete.given
    rw [hshows.calls, List.append_assoc, List.filterMap_cons, hwords]
    rfl
  refine ⟨?_, ?_, ?_, ?_, ?_, ?_⟩
  · rw [Event.hooks_append, hshows.hooks, hrest.hooks]
    rfl
  · rw [Event.actions_append, hshows.actions, hrest.actions]
    rfl
  · exact List.cons_prefix_cons.mpr ⟨rfl, hrest.order⟩
  · simp only [List.map_cons, houtcome, hrest.outcomes]
  · intro before found after hsplit
    cases before with
    | nil =>
        obtain ⟨rfl, -⟩ := List.cons.inj hsplit
        simpa using hcomplete
    | cons first before =>
        obtain ⟨rfl, htail⟩ := List.cons.inj hsplit
        rw [← hhistory]
        exact hrest.complete before found after htail
  · have hended := hrest.ended
    rw [hhistory blocks] at hended
    cases last with
    | none => exact ⟨hended.1, congrArg (· + 1) hended.2⟩
    | some block => exact hended

/-- **A run is a sequence of blocks.** -/
theorem exists_bracketed {adapters : List Adapter}
    (hreadable : ∀ adapter ∈ adapters, ∀ matcher, adapter.format.compile = .ok matcher →
      ∀ line, ∃ found, matcher.apply line = .ok found)
    (target : Option String) (history : List (List String)) :
    ∃ blocks last, setup.Bracketed target history adapters (setup.runFrom target history adapters)
      blocks last := by
  induction adapters generalizing history with
  | nil => exact ⟨[], none, rfl, rfl, List.prefix_refl _, rfl, by simp, rfl, rfl⟩
  | cons adapter rest ih =>
      rw [List.forall_mem_cons] at hreadable
      obtain ⟨block, rfl, hshows, hblock⟩ :=
        setup.exists_block target history hreadable.1
      cases hresult : (setup.attempt target history block.adapter).result with
      | error failure =>
          rw [runFrom_failure hresult]
          rw [hresult] at hblock
          refine ⟨[], some block, ?_, ?_, ?_, rfl, by simp, failure, rfl, ?_⟩
          · simpa using hshows.hooks
          · simpa using hshows.actions
          · simp
          · simpa using hblock
      | ok outcome =>
          rw [runFrom_outcome hresult rfl]
          rw [hresult] at hblock
          obtain ⟨hcomplete, houtcome⟩ := hblock
          obtain ⟨blocks, last, hrest⟩ :=
            ih hreadable.2 (history ++ Event.calls (setup.attempt target history block.adapter).events)
          exact ⟨block :: blocks, last, hrest.cons hshows hcomplete houtcome⟩

/-- **Hooks are called in blocks.** If the matchers of the registry have an answer for every line, every
run over the adapters of a language is a sequence of complete blocks for the first of them, in their order,
followed by a block that is cut short if and only if the run fails. For a language without adapters no hook
is called at all. Reading diagnostics one by one or as lines calls the same hooks and fails alike. -/
theorem hooks_bracketed (setup : Setup) (hreadable : setup.registry.Readable)
    (history : List (List String)) (language : String) (target : Option String) :
    let run := setup.run history language target
    (match setup.registry.adaptersFor language with
      | .error failure => run = { events := [], outcomes := [], failure := some failure }
      | .ok adapters => ∃ blocks last, setup.Bracketed target history adapters run blocks last) ∧
    setup.lint history language target
      = { events := run.events, items := run.diagnostics, failure := run.failure } ∧
    (setup.stream history language target).events = run.events := by
  intro run
  have hlint := setup.lint_eq_run history language target
  have hstream := setup.stream_eq_run history language target
  refine ⟨?_, hlint, congrArg Streamed.events hstream⟩
  cases hadapters : setup.registry.adaptersFor language with
  | error failure => exact run_of_no_adapters hadapters history target
  | ok adapters =>
      have hrun : run = setup.runFrom target history adapters := run_of_adapters hadapters history target
      rw [hrun]
      exact exists_bracketed (fun adapter hadapter =>
        hreadable adapter (Registry.mem_of_adaptersFor hadapters adapter hadapter)) target history

end Setup

def Catalogue.withoutMypy : Setup where
  registry := registry
  policy := .abort
  runner := fun _ words =>
    if words.head? = some "mypy" then .notStarted "mypy" "No such file or directory" else .finished 0 []

theorem Catalogue.withoutMypy_bracketed :
    withoutMypy.registry.Readable ∧
    ∃ ruff mypy blocks last, registry.get "ruff" = .ok ruff ∧ registry.get "mypy" = .ok mypy ∧
      withoutMypy.Bracketed (some "a.py") [] [ruff, mypy] (withoutMypy.run [] "python" (some "a.py"))
        blocks last ∧
      Event.hooks (withoutMypy.run [] "python" (some "a.py")).events
        = [.before ruff, .after { adapter := "ruff", status := some 0 }, .before mypy,
            .failed mypy "mypy" "No such file or directory"] := by
  obtain ⟨hblocks, -⟩ :=
    Setup.hooks_bracketed withoutMypy readable_registry [] "python" (some "a.py")
  obtain ⟨blocks, last, hbracketed⟩ := hblocks
  exact ⟨readable_registry, _, _, blocks, last, rfl, rfl, hbracketed, by decide +kernel⟩

end LintRunner
