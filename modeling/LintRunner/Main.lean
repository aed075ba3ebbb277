import LintRunner.Cli.Session

/-!
# The program

Reads the files that a configuration may be in, runs a session and writes what it says. Tools are not
started from here: every command is answered with the reason for that.
-/

set_option autoImplicit false

namespace LintRunner.Program

def candidates (args : List String) : List Path :=
  [Path.ofString Config.ownName, Path.ofString Config.sharedName] ++
    ((Cli.Request.read? args).bind Cli.Request.config?).toList

def readCandidate (path : Path) : IO (Option (List String × Contents)) := do
  try
    let bytes ← IO.FS.readBinFile path.text
    return some (path.parts, .bytes bytes.toList)
  catch error =>
    match error with
    | .permissionDenied _ _ reason => return some (path.parts, .unreadable reason)
    | _ => return none

def noTools : Runner := fun _ words => .notStarted (words.headD "") "tools are not started here"

def surroundings (args : List String) : IO Cli.Surroundings := do
  let files ← (candidates args).filterMapM readCandidate
  let location ← IO.currentDir
  return { directory := { files }, location := location.toString, runner := noTools }

end LintRunner.Program

def main (args : List String) : IO UInt32 := do
  let transcript := LintRunner.Cli.session (← LintRunner.Program.surroundings args) args
  IO.print transcript.stdout
  IO.eprint transcript.stderr
  return transcript.ending.code.toUInt32
