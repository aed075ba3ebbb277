import LintRunner.Format.Matcher
import LintRunner.Policy
import LintRunner.Registry
import LintRunner.Report

/-!
# Runs

A run starts the tools of a language one after the other and reads their lines. Everything that a run
does is an event; `Setup.run` gives the events of a whole run in order, the outcomes of the adapters
that were completed, and the failure that ended it, if there was one.

How tools answer is given by a function from the commands so far to a reply, so that nothing here
starts a program.
-/

set_option autoImplicit false

namespace LintRunner

/-! ## Tools -/

/-- What became of a command: its exit status and its lines, or why it could not be started. -/
inductive Reply where
  | finished (status : Int) (lines : List String)
  | notStarted (executable reason : String)
  deriving DecidableEq, Repr

/-- The reply to a command after earlier commands, the oldest of which comes first. -/
abbrev Runner := List (List String) → List String → Reply

structure Setup where
  registry : Registry
  policy : Policy
  runner : Runner

/-! ## Events -/

/-- What can be seen of a run. -/
inductive Event where
  | before (adapter : Adapter)
  | called (adapter : Adapter) (words : List String)
  | failed (adapter : Adapter) (executable reason : String)
  | skipped (adapter : Adapter) (error : String)
  | finished (outcome : Outcome) (status : Int) (lineCount : Nat)
  | after (outcome : Outcome)
  deriving DecidableEq

inductive LogLevel where
  | debug
  | warning
  deriving DecidableEq, Repr

def LogLevel.name : LogLevel → String
  | .debug => "DEBUG"
  | .warning => "WARNING"

def spaceSeparated (words : List String) : String := String.intercalate " " words

namespace Event

def call? : Event → Option (List String)
  | called _ words => some words
  | _ => none

def log? : Event → Option (LogLevel × String)
  | called adapter words => some (.debug,
      "adapter=" ++ adapter.name ++ " command=" ++ spaceSeparated words)
  | skipped adapter error => some (.warning, "skipping adapter " ++ adapter.name ++ ": " ++ error)
  | finished outcome status lineCount => some (.debug,
      "adapter=" ++ outcome.adapter ++ " returncode=" ++ Text.wholeText status ++ " lines=" ++
        Text.numberText lineCount ++ " diagnostics=" ++ Text.numberText outcome.diagnostics.length)
  | _ => none

def calls (events : List Event) : List (List String) := events.filterMap call?

def logs (events : List Event) : List (LogLevel × String) := events.filterMap log?

end Event

/-! ## One adapter -/

/-- The diagnostics of the lines that conform to a format, with the name of the tool. -/
def readLines (matcher : Matcher) (tool : String) :
    List String → Except Failure (List Diagnostic)
  | [] => .ok []
  | line :: rest =>
      match matcher.apply line with
      | .error failure => .error failure
      | .ok none => readLines matcher tool rest
      | .ok (some d) => (readLines matcher tool rest).map ({ d with tool := some tool } :: ·)

structure Attempt where
  events : List Event
  result : Except Failure Outcome

/-- Reads the reply to the command of an adapter. -/
def Setup.conclude (setup : Setup) (adapter : Adapter) (matcher : Matcher) :
    Reply → List Event × Except Failure Outcome
  | .notStarted executable reason =>
      let failure := Failure.toolNotStarted executable reason
      let outcome : Outcome := { adapter := adapter.name, error := some failure.message }
      match setup.policy with
      | .abort => ([.failed adapter executable reason], .error failure)
      | .skip =>
          ([.failed adapter executable reason, .skipped adapter failure.message, .after outcome],
            .ok outcome)
  | .finished status lines =>
      match readLines matcher adapter.name lines with
      | .error failure => ([], .error failure)
      | .ok diagnostics =>
          let outcome : Outcome := { adapter := adapter.name, status := some status, diagnostics }
          ([.finished outcome status lines.length, .after outcome], .ok outcome)

/-- Runs one adapter after the given commands. Its command and its format are looked at before
anything is started. -/
def Setup.attempt (setup : Setup) (target : Option String) (history : List (List String))
    (adapter : Adapter) : Attempt :=
  match adapter.buildCommand target with
  | .error failure => { events := [.before adapter], result := .error failure }
  | .ok words =>
      match adapter.format.compile with
      | .error failure => { events := [.before adapter], result := .error failure }
      | .ok matcher =>
          let (events, result) := setup.conclude adapter matcher (setup.runner history words)
          { events := .before adapter :: .called adapter words :: events, result }

/-! ## Whole runs -/

/-- What a run did, the outcomes of the adapters that it completed, and the failure that ended it
before its last adapter. -/
structure Run where
  events : List Event
  outcomes : List Outcome
  failure : Option Failure

/-- Runs adapters one after the other, up to the first that fails. -/
def Setup.runFrom (setup : Setup) (target : Option String) :
    List (List String) → List Adapter → Run
  | _, [] => { events := [], outcomes := [], failure := none }
  | history, adapter :: rest =>
      let attempt := setup.attempt target history adapter
      match attempt.result with
      | .error failure => { events := attempt.events, outcomes := [], failure := some failure }
      | .ok outcome =>
          let later := setup.runFrom target (history ++ Event.calls attempt.events) rest
          { events := attempt.events ++ later.events
            outcomes := outcome :: later.outcomes
            failure := later.failure }

def Setup.run (setup : Setup) (history : List (List String)) (language : String)
    (target : Option String) : Run :=
  match setup.registry.adaptersFor language with
  | .error failure => { events := [], outcomes := [], failure := some failure }
  | .ok adapters => setup.runFrom target history adapters

def Run.report (run : Run) (language : String) (target : Option String) : Except Failure Report :=
  match run.failure with
  | some failure => .error failure
  | none => .ok { language, target, outcomes := run.outcomes }

end LintRunner
