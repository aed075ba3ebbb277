import LintRunner.Failure
import LintRunner.Path
import LintRunner.Text.Lines
import LintRunner.Text.Quoted
import LintRunner.Text.Utf8

/-!
# Capturing output

How a command is turned into its exit status and its lines. What the operating system does is given
by a `Host`: which file a name leads to, and what became of a process. The output of a process goes to
a scratch file, which is open while the process runs.
-/

set_option autoImplicit false

namespace LintRunner.Capture

/-! ## The host -/

/-- An error of the operating system: a note, or a number with a text and possibly a file. -/
inductive HostError where
  | note (text : String)
  | numbered (number : Int) (text : String) (file : Option String)
  deriving DecidableEq, Repr

namespace HostError

def text : HostError → String
  | note text => text
  | numbered number text file =>
      "[Errno " ++ Text.wholeText number ++ "] " ++ text ++
        (file.map fun name => ": " ++ Text.quoted name).getD ""

def isNotFound : HostError → Bool
  | numbered 2 _ _ => true
  | _ => false

def isDenied : HostError → Bool
  | numbered 1 _ _ | numbered 13 _ _ => true
  | _ => false

end HostError

/-- A process to be started: its words, its directory and its environment, if they are not those of
the parent. -/
structure Job where
  words : List String
  directory : Option String := none
  environment : Option (List (String × String)) := none
  deriving DecidableEq, Repr

inductive Fate where
  | exited (status : Int)
  | refused (error : HostError)
  deriving DecidableEq, Repr

/-- The operating system. A name leads to a file that may be executed, or else to a file that may
not; a job leaves bytes in the scratch file and meets its fate. -/
structure Host where
  executable? : String → Option String
  otherFile? : String → Option String
  perform : Job → List UInt8 × Fate

/-! ## Events -/

/-- What can be seen of a capture. -/
inductive Event where
  | opened
  | started (job : Job)
  | closed
  | noted (text : String)
  deriving DecidableEq, Repr

def Event.job? : Event → Option Job
  | .started job => some job
  | _ => none

def Event.note? : Event → Option String
  | .noted text => some text
  | _ => none

structure Captured where
  command : List String
  status : Int
  lines : List String
  deriving DecidableEq, Repr

/-! ## Captures -/

def noSuchFile : String := "no such file"

def permissionDenied : String := "permission denied"

/-- The command with the file that its first word leads to. A word with a directory in it is a path
already; the host looks up any other. -/
def resolve (host : Host) (name : String) (rest : List String) : Except Failure (List String) :=
  let path := Path.ofString name
  if path.isBare then
    match host.executable? name with
    | some file => .ok (file :: rest)
    | none =>
        let found := ((host.otherFile? name).map fun file => !file.isEmpty).getD false
        .error (.toolNotStarted name (if found then permissionDenied else noSuchFile))
  else .ok (path.text :: rest)

def HostError.reason (error : HostError) : String :=
  if error.isNotFound then noSuchFile
  else if error.isDenied then permissionDenied
  else error.text

def outputLines (bytes : List UInt8) : List String :=
  (Text.splitLines (Text.Utf8.decodeLossy bytes)).map String.ofList

def statusNotes (command : String) (status : Int) : List Event :=
  if status = 0 then []
  else [.noted ("command=" ++ command ++ " exited with status " ++ Text.wholeText status)]

/-- Starts a command and gathers its output. -/
def capture (host : Host) (words : List String) (directory : Option String)
    (environment : Option (List (String × String))) : List Event × Except Failure Captured :=
  match words with
  | [] => ([], .error .emptyCommand)
  | name :: rest =>
      match resolve host name rest with
      | .error failure => ([], .error failure)
      | .ok command =>
          let job : Job := { words := command, directory, environment }
          let (bytes, fate) := host.perform job
          let events := [Event.opened, .started job, .closed]
          match fate with
          | .refused error => (events, .error (.toolNotStarted name error.reason))
          | .exited status =>
              (events ++ statusNotes (command.headD "") status,
                .ok { command, status, lines := outputLines bytes })

end LintRunner.Capture
