import LintRunner.Proofs.Capture.Lines
import LintRunner.Proofs.Path

/-!
# The contract of captures

A capture answers with the exit status and the lines of a process, or it says which tool could not be
started and why (`capture_answers`). Nothing is started for a name that leads nowhere; otherwise one process
is started, and its scratch file is closed whatever becomes of it.
-/

set_option autoImplicit false

namespace LintRunner.Capture

variable {host : Host} {name file reason : String} {rest : List String}

/-! ## Names -/

/-- A host that finds a file or nothing: no name leads to an empty path. -/
def Host.NamesFiles (host : Host) : Prop :=
  ∀ name, host.executable? name ≠ some "" ∧ host.otherFile? name ≠ some ""

/-- Whether no directory stands in a name: it is the path of a text without slashes. -/
def Bare (name : String) : Prop :=
  ∃ word : String, '/' ∉ word.toList ∧ Path.ofString word = Path.ofString name

/-- The file that a name leads to. A name with a directory in it is the path of that file, of which the
shortest text is taken; under any other name the host finds a file that may be executed. -/
inductive LeadsTo (host : Host) (name : String) : String → Prop
  | path {file : String} (hname : ¬ Bare name) (hsame : Path.ofString file = Path.ofString name)
      (hshort : (Path.ofString file).text = file) : LeadsTo host name file
  | found {file : String} (hname : Bare name) (hfile : host.executable? name = some file) :
      LeadsTo host name file

/-- Why a bare name leads to no file: the host finds none at all, or one that must not be executed. -/
inductive LeadsNowhere (host : Host) (name : String) : String → Prop
  | missing (hname : Bare name) (hfile : host.executable? name = none)
      (hother : host.otherFile? name = none) : LeadsNowhere host name "no such file"
  | denied {file : String} (hname : Bare name) (hfile : host.executable? name = none)
      (hother : host.otherFile? name = some file) : LeadsNowhere host name "permission denied"

theorem bare_iff : Bare name ↔ (Path.ofString name).isBare = true := Path.isBare_iff.symm

theorem resolve_of_leadsTo (h : LeadsTo host name file) :
    resolve host name rest = .ok (file :: rest) := by
  unfold resolve
  cases h with
  | path hname hsame hshort =>
      rw [bare_iff] at hname
      rw [hsame] at hshort
      simp only [hname, hshort]
      rfl
  | found hname hfile =>
      rw [bare_iff] at hname
      simp only [hname, hfile, if_true]

theorem resolve_of_leadsNowhere (hhost : host.NamesFiles) (h : LeadsNowhere host name reason) :
    resolve host name rest = .error (.toolNotStarted name reason) := by
  unfold resolve
  cases h with
  | missing hname hfile hother =>
      rw [bare_iff] at hname
      simp only [hname, hfile, hother, if_true]
      rfl
  | @denied file hname hfile hother =>
      rw [bare_iff] at hname
      have hne : file.isEmpty = false := by
        rw [Bool.eq_false_iff]
        intro hempty
        rw [String.isEmpty_iff] at hempty
        exact (hhost name).2 (hempty ▸ hother)
      simp only [hname, hfile, hother, if_true, Option.map_some, Option.getD_some, hne]
      rfl

/-- Every name leads to a file or nowhere. -/
theorem leadsNowhere_or_leadsTo (host : Host) (name : String) :
    (∃ reason, LeadsNowhere host name reason) ∨ ∃ file, LeadsTo host name file := by
  by_cases hname : Bare name
  · cases hfile : host.executable? name with
    | some file => exact Or.inr ⟨file, .found hname hfile⟩
    | none =>
        cases hother : host.otherFile? name with
        | none => exact Or.inl ⟨_, .missing hname hfile hother⟩
        | some file => exact Or.inl ⟨_, .denied hname hfile hother⟩
  · have hsame := Path.ofString_text_ofString name
    exact Or.inr ⟨(Path.ofString name).text, .path hname hsame (by rw [hsame])⟩

/-! ## Processes -/

structure HostError.Blames (error : HostError) (reason : String) : Prop where
  missing : error.isNotFound = true → reason = "no such file"
  denied : error.isDenied = true → reason = "permission denied"
  other : error.isNotFound = false → error.isDenied = false → reason = error.text

/-- No error is about a missing file and a permission. -/
theorem HostError.isDenied_of_isNotFound {error : HostError} (h : error.isNotFound = true) :
    error.isDenied = false := by
  unfold isNotFound at h
  split at h
  · rfl
  · cases h

theorem HostError.blames_reason (error : HostError) : error.Blames error.reason := by
  by_cases hmissing : error.isNotFound = true
  · have hdenied := isDenied_of_isNotFound hmissing
    constructor <;> simp [reason, hmissing, hdenied, noSuchFile]
  · by_cases hdenied : error.isDenied = true
    · constructor <;> simp [reason, hmissing, hdenied, permissionDenied]
    · constructor <;> simp [reason, hmissing, hdenied]

/-- Whether events are those of one job: a scratch file is opened, the job is started, and the scratch file
is closed. Whatever follows is only noted. -/
def RunsOnce (job : Job) (events : List Event) : Prop :=
  ∃ notes, (∀ event ∈ notes, ∃ text, event = .noted text) ∧
    events = [.opened, .started job, .closed] ++ notes

theorem runsOnce_of_notes {job : Job} (command : String) (status : Int) :
    RunsOnce job ([.opened, .started job, .closed] ++ statusNotes command status) := by
  refine ⟨statusNotes command status, ?_, rfl⟩
  intro event hevent
  unfold statusNotes at hevent
  split at hevent
  · cases hevent
  · exact ⟨_, List.mem_singleton.mp hevent⟩

/-! ## Captures -/

/-- What is captured of a job: its exit status and the lines of all that it wrote, or the reason for which
the host refused it. -/
def Captures (name : String) (job : Job) : List UInt8 × Fate → Except Failure Captured → Prop
  | (bytes, .exited status), result => ∃ blocks, Consists bytes blocks ∧
      result = .ok { command := job.words, status, lines := blocks.map lineOf }
  | (_, .refused error), result => ∃ reason, error.Blames reason ∧
      result = .error (.toolNotStarted name reason)

theorem captures_of_resolve {directory : Option String}
    {environment : Option (List (String × String))} {command : List String}
    (h : resolve host name rest = .ok command) :
    let answer := capture host (name :: rest) directory environment
    let job : Job := { words := command, directory, environment }
    RunsOnce job answer.1 ∧ Captures name job (host.perform job) answer.2 := by
  rcases hperform : host.perform { words := command, directory, environment } with ⟨bytes, fate⟩
  unfold capture
  simp only [h, hperform]
  cases fate with
  | refused error => exact ⟨⟨[], by simp, rfl⟩, error.reason, error.blames_reason, rfl⟩
  | exited status =>
      obtain ⟨blocks, hblocks⟩ := exists_consists bytes
      refine ⟨runsOnce_of_notes _ status, blocks, hblocks, ?_⟩
      rw [hblocks.outputLines_eq]

/-- **A capture answers for every command and whatever the host does.** If the name of the tool leads
nowhere the answer says so and nothing has been started or opened. Otherwise one process has been started,
with the file that the name leads to in place of the name, and one scratch file has been opened for it and
closed again; the answer is what is captured of the process, or why it could not be started. A failure always
names the tool as it was called. -/
theorem capture_answers (hhost : host.NamesFiles) (name : String) (rest : List String)
    (directory : Option String) (environment : Option (List (String × String))) :
    let answer := capture host (name :: rest) directory environment
    ((∃ reason, LeadsNowhere host name reason) ∨ ∃ file, LeadsTo host name file) ∧
      (∀ reason, LeadsNowhere host name reason →
        answer = ([], .error (.toolNotStarted name reason))) ∧
      ∀ file, LeadsTo host name file →
        let job : Job := { words := file :: rest, directory, environment }
        RunsOnce job answer.1 ∧ Captures name job (host.perform job) answer.2 := by
  refine ⟨leadsNowhere_or_leadsTo host name, fun reason h => ?_, fun file h => ?_⟩
  · unfold capture
    simp only [resolve_of_leadsNowhere hhost h]
  · exact captures_of_resolve (resolve_of_leadsTo h)

/-- A host that finds one tool and one file that must not be executed, and that refuses all other files. -/
def guardedHost : Host where
  executable? name := if name = "lint" then some "/usr/bin/lint" else none
  otherFile? name := if name = "notes" then some "/usr/bin/notes" else none
  perform job :=
    if job.words.head? = some "/usr/bin/lint" then ([0x61, 0x0A], .exited 2)
    else ([0x62], .refused (.numbered 13 "Permission denied" none))

theorem guardedHost_answers :
    guardedHost.NamesFiles ∧
      capture guardedHost ["notes"] none none
        = ([], .error (.toolNotStarted "notes" "permission denied")) ∧
      (RunsOnce { words := ["/usr/bin/lint", "a b"] } (capture guardedHost ["lint", "a b"] none none).1 ∧
        (capture guardedHost ["lint", "a b"] none none).2
          = .ok { command := ["/usr/bin/lint", "a b"], status := 2, lines := ["a"] }) ∧
      RunsOnce { words := ["bin/lint"] } (capture guardedHost ["bin//./lint"] none none).1 ∧
        (capture guardedHost ["bin//./lint"] none none).2
          = .error (.toolNotStarted "bin//./lint" "permission denied") := by
  have hhost : guardedHost.NamesFiles := by
    intro name
    unfold guardedHost
    constructor <;> dsimp only <;> split <;> simp
  have hnotes : LeadsNowhere guardedHost "notes" "permission denied" :=
    .denied (bare_iff.mpr (by decide)) rfl rfl
  have hlint : LeadsTo guardedHost "lint" "/usr/bin/lint" := .found (bare_iff.mpr (by decide)) rfl
  have hpath : LeadsTo guardedHost "bin//./lint" "bin/lint" :=
    .path (by rw [bare_iff]; decide) (by decide) (by decide)
  refine ⟨hhost, (capture_answers hhost "notes" [] none none).2.1 _ hnotes, ?_, ?_⟩
  · obtain ⟨honce, blocks, hblocks, hresult⟩ :=
      (capture_answers hhost "lint" ["a b"] none none).2.2 _ hlint
    have hlines : outputLines [0x61, 0x0A] = ["a"] := by decide
    refine ⟨honce, ?_⟩
    rw [hresult, ← hblocks.outputLines_eq, hlines]
  · obtain ⟨honce, reason, hreason, hresult⟩ :=
      (capture_answers hhost "bin//./lint" [] none none).2.2 _ hpath
    refine ⟨honce, ?_⟩
    rw [hresult, hreason.denied rfl]

end LintRunner.Capture
