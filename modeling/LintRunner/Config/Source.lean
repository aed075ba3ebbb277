import LintRunner.Config.Schema
import LintRunner.Directory
import LintRunner.Text.Utf8
import LintRunner.Toml.Document

/-!
# Configuration files

A configuration is looked for in a directory under two names. The file with the name of its own comes
first; the project file counts only if it has a section for this program.
-/

set_option autoImplicit false

namespace LintRunner.Config

/-- The file that holds nothing but a configuration. -/
def ownName : String := ".diaglint.toml"

/-- The file that is shared with other programs. -/
def sharedName : String := "pyproject.toml"

def readDocument (path : String) (bytes : List UInt8) : Except Failure Toml.Entries :=
  match Text.Utf8.decode? bytes with
  | none => .error .undecodable
  | some text =>
      match Toml.read text with
      | .ok entries => .ok entries
      | .error .malformed => .error (.config (.badToml path))
      | .error (.digitLimit digits) => .error (.digitLimit (some digits))

/-- The section for this program in a shared file; it is empty if there is none. -/
def sharedSection (document : Toml.Entries) : Toml.Entries :=
  match document.lookup "tool" with
  | some (.table tools) =>
      match tools.lookup "diaglint" with
      | some (.table section_) => section_
      | _ => []
  | _ => []

/-- The part of a file that is the configuration, which its name decides on. -/
def readSection (path : Path) (shown : String) (bytes : List UInt8) :
    Except Failure Toml.Entries := do
  let document ← readDocument shown bytes
  return if path.name == sharedName then sharedSection document else document

def readContents (path : Path) (shown : String) : Contents → Except Failure Toml.Entries
  | .bytes bytes => readSection path shown bytes
  | .unreadable reason => .error (.config (.unreadable shown reason))

/-- How a path is shown: as it is, or below a directory that the current one stands for. -/
abbrev Shown := Path → String

/-- The file at a path, if there is one. A place that cannot be examined is a failure. -/
def lookFor (dir : Directory) (path : Path) : Except Failure (Option Contents) :=
  (dir.fileAt path).mapError .unexamined

def find (dir : Directory) (shown : Shown) (root : Path) : Except Failure (Option Path) := do
  let own := root.child ownName
  if (← lookFor dir own).isSome then return some own
  let shared := root.child sharedName
  match ← lookFor dir shared with
  | none => return none
  | some contents =>
      if (← readContents shared (shown shared) contents).isEmpty then return none
      else return some shared

def loadFile (dir : Directory) (shown : Shown) (path : Path) : Except Failure Config := do
  match ← lookFor dir path with
  | none => throw (.config (.noFile (shown path)))
  | some contents =>
      match Config.check (.table (normalizeKeys (← readContents path (shown path) contents))) with
      | .ok config => return config
      | .bad issues => throw (.config (.badDocument (shown path) issues))

/-- The configuration in a directory; without a file it is the default one. -/
def load (dir : Directory) (shown : Shown) (root : Path) : Except Failure Config := do
  match ← find dir shown root with
  | none => return {}
  | some path => loadFile dir shown path

end LintRunner.Config
