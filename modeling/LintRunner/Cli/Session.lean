import LintRunner.Catalogue
import LintRunner.Cli.Arguments
import LintRunner.Config.Notation
import LintRunner.Config.Source
import LintRunner.Console
import LintRunner.Language
import LintRunner.Listing
import LintRunner.Run.Stream

/-!
# Sessions

What the program does for its arguments, given the files around it and the answers of the tools: what
it writes to its two outputs, which commands it runs, and how it ends.
-/

set_option autoImplicit false

namespace LintRunner.Cli

/-! ## Outcomes -/

inductive Exit where
  | ok
  | diagnosticErrors
  | usage
  | toolFailure
  deriving DecidableEq, Repr

def Exit.code : Exit → Nat
  | ok => 0
  | diagnosticErrors => 1
  | usage => 2
  | toolFailure => 3

/-- How a session ended: with a status, with arguments that could not be read, or with a failure that
it has no message for. -/
inductive Ending where
  | exited (status : Exit)
  | misused
  | escaped (failure : Failure)
  deriving DecidableEq, Repr

def Ending.code : Ending → Nat
  | exited status => status.code
  | misused => Exit.usage.code
  | escaped _ => 1

/-- What a session wrote, which commands it ran, and how it ended. -/
structure Transcript where
  stdout : String := ""
  stderr : String := ""
  calls : List (List String) := []
  ending : Ending
  deriving DecidableEq, Repr

/-- What a session depends on: the files below its directory, the name of that directory, the tools,
and the printer of the tables. -/
structure Surroundings where
  directory : Directory
  location : String
  runner : Runner
  printer : Printer := .terminal 80

/-! ## Configuration -/

def Surroundings.shown (s : Surroundings) (path : Path) : String := s.location ++ "/" ++ path.text

/-- The configuration in a named file, or else the one that is found in the directory. -/
def Surroundings.config (s : Surroundings) : Option Path → Except Failure Config
  | some path => Config.loadFile s.directory Path.text path
  | none => Config.load s.directory s.shown { root := .relative, parts := [] }

/-- The registry of the built-in tools and of a configuration. -/
def Surroundings.registry (s : Surroundings) (path : Option Path) : Except Failure Registry := do
  (← s.config path).buildRegistry Catalogue.registry

/-! ## Lint runs -/

/-- Why a lint run does not begin. -/
inductive Refusal where
  | noTarget
  | unknownLanguage (target : Path)
  | failed (failure : Failure)
  deriving DecidableEq, Repr

def Refusal.message : Refusal → String
  | noTarget => "either a target file or --language is required"
  | unknownLanguage target =>
      "cannot infer the language of " ++ target.text ++ "; pass --language"
  | failed failure => failure.message

/-- The status for a failure, if there is a message for it. -/
def exitOf? : Failure → Option Exit
  | .toolNotStarted .. => some .toolFailure
  | .format _ | .adapter _ | .unknownAdapter _ | .unsupportedLanguage _ | .targetRequired _
  | .config _ => some .usage
  | _ => none

/-- The language that is asked for, or else that of the target. -/
def LintRequest.resolve (r : LintRequest) : Except Refusal String :=
  match r.language, r.target with
  | some tag, _ => .ok tag
  | none, none => .error .noTarget
  | none, some target =>
      match Language.detect? target with
      | some tag => .ok tag
      | none => .error (.unknownLanguage target)

def orRefuse {α : Type} : Except Failure α → Except Refusal α
  | .ok a => .ok a
  | .error failure => .error (.failed failure)

/-- Everything that a lint run needs: first the configuration, then the language, then the tools. -/
def LintRequest.prepare (r : LintRequest) (s : Surroundings) : Except Refusal (Setup × String) := do
  let config ← orRefuse (s.config r.config)
  let language ← r.resolve
  let registry ← orRefuse (config.buildRegistry Catalogue.registry)
  let policy := if r.skipMissing then Policy.skip else config.policy
  return ({ registry, policy, runner := s.runner }, language)

def LintRequest.remark (r : LintRequest) : Event → String
  | .before adapter =>
      if r.verbose then
        messageText .info r.signs
          ("running " ++ adapter.name ++ ": " ++ spaceSeparated adapter.command)
      else ""
  | .skipped adapter error => "skipping adapter " ++ adapter.name ++ ": " ++ error ++ "\n"
  | .after { adapter, error := some error, .. } =>
      messageText .warn r.signs (adapter ++ " skipped: " ++ error)
  | .after { adapter, status, diagnostics, error := none } =>
      if r.verbose then
        messageText .info r.signs
          (adapter ++ " exited " ++ (status.map Text.wholeText).getD "None" ++ " with " ++
            Text.numberText diagnostics.length ++ " diagnostic(s)")
      else ""
  | _ => ""

def errorsOf : Event → Nat
  | .after outcome => Diagnostic.errorCount outcome.diagnostics
  | _ => 0

def errorTotal (events : List Event) : Nat := events.foldl (fun n event => n + errorsOf event) 0

def joined (parts : List String) : String := String.join parts

/-- A text without the control sequences of terminals: escape, an opening bracket, numbers between
semicolons and question marks, and a letter. -/
def withoutSequences : Nat → List Char → List Char
  | _, [] => []
  | skip + 1, _ :: cs => withoutSequences skip cs
  | 0, '\x1b' :: '[' :: cs =>
      let parameters := cs.takeWhile fun c => Text.isAsciiDigit c || c == ';' || c == '?'
      match cs.drop parameters.length with
      | final :: _ =>
          if Text.isAsciiLetter final then withoutSequences (parameters.length + 2) ('[' :: cs)
          else '\x1b' :: withoutSequences 0 ('[' :: cs)
      | [] => '\x1b' :: withoutSequences 0 ('[' :: cs)
  | 0, c :: cs => c :: withoutSequences 0 cs

/-- A text on a line of its own, as it is written to something that is no terminal. -/
def echo (text : String) : String :=
  String.ofList (withoutSequences 0 text.toList) ++ "\n"

structure Written where
  stdout : String
  events : List Event
  failure : Option Failure

def echoed : Except Failure String → String × Option Failure
  | .ok text => (echo text, none)
  | .error failure => ("", some failure)

/-- Lints and writes. Single lines are written as they come; the other modes write nothing if the run
fails. -/
def LintRequest.write (r : LintRequest) (s : Surroundings) (setup : Setup) (language : String) :
    Written :=
  let target := r.target.map Path.text
  match r.output with
  | .text =>
      let stream := setup.stream [] language target
      { stdout := joined (stream.lines.map echo)
        events := stream.events
        failure :=
          match stream.count with
          | .ok _ => none
          | .error failure => some failure }
  | output =>
      let result := setup.lint [] language target
      let (stdout, failure) :=
        match result.failure with
        | some failure => ("", some failure)
        | none =>
            if output = .json then echoed (Listing.json result.items)
            else Listing.pretty s.printer result.items
      { stdout, events := result.events, failure }

def LintRequest.stop (r : LintRequest) (failure : Failure) : String × Ending :=
  match exitOf? failure with
  | some status => (messageText .fail r.signs failure.message, .exited status)
  | none => ("", .escaped failure)

def LintRequest.refuse (r : LintRequest) : Refusal → String × Ending
  | .failed failure => r.stop failure
  | refusal => (messageText .fail r.signs refusal.message, .exited .usage)

def LintRequest.finish (r : LintRequest) (language : String) (errors : Nat) : String × Ending :=
  if 0 < errors then ("", .exited .diagnosticErrors)
  else
    (if r.verbose then messageText .ok r.signs (language ++ ": no error diagnostics") else "",
      .exited .ok)

def LintRequest.run (r : LintRequest) (s : Surroundings) : Transcript :=
  match r.prepare s with
  | .error refusal =>
      let (stderr, ending) := r.refuse refusal
      { stderr, ending }
  | .ok (setup, language) =>
      let written := r.write s setup language
      let (last, ending) :=
        match written.failure with
        | some failure => r.stop failure
        | none => r.finish language (errorTotal written.events)
      { stdout := written.stdout
        stderr := joined (written.events.map r.remark) ++ last
        calls := Event.calls written.events
        ending }

/-! ## Lists of tools -/

def languageRows (registry : Registry) : List (List Table.Cell) :=
  (registry.languages.mergeSort fun a b => decide (a.1 ≤ b.1)).map fun (tag, names) =>
    [.marked tag, .marked (commaSeparated names)]

def languageColumns : List Table.Column := [{ title := "Language" }, { title := "Linters" }]

def adapterRows (registry : Registry) : List (List Table.Cell) :=
  registry.adapters.map fun adapter =>
    [.marked adapter.name, .plain (spaceSeparated adapter.command),
      .plain (if adapter.requiresTarget then "file" else "project")]

def adapterColumns : List Table.Column :=
  [{ title := "Adapter" }, { title := "Command" }, { title := "Target" }]

def boxed (columns : List Table.Column) (rows : List (List Table.Cell)) : Table :=
  { frame := Table.Frame.boxed, columns, rows }

def showTable (s : Surroundings) (config : Option Path) (columns : List Table.Column)
    (rows : Registry → List (List Table.Cell)) : Transcript :=
  match s.registry config with
  | .error (.config problem) =>
      { stderr := messageText .fail true problem.message, ending := .exited .usage }
  | .error failure => { ending := .escaped failure }
  | .ok registry =>
      match s.printer (.table (boxed columns (rows registry))) with
      | .error problem => { ending := .escaped (.unprinted problem) }
      | .ok stdout => { stdout, ending := .exited .ok }

/-! ## Sessions -/

def Request.run (s : Surroundings) : Request → Transcript
  | .lint request => request.run s
  | .languages config => showTable s config languageColumns languageRows
  | .adapters config => showTable s config adapterColumns adapterRows

def session (s : Surroundings) (args : List String) : Transcript :=
  match Request.read? args with
  | some request => request.run s
  | none => { ending := .misused }

end LintRunner.Cli
