import LintRunner.Path
import LintRunner.Text.Case

/-!
# Languages of files

The language of a file is known by its name or by its suffix, in lower case.
-/

set_option autoImplicit false

namespace LintRunner.Language

open LintRunner.Text

def suffixes : List (String × List String) :=
  [("python", [".py", ".pyi"]),
    ("javascript", [".cjs", ".js", ".jsx", ".mjs"]),
    ("typescript", [".ts", ".tsx"]),
    ("go", [".go"]),
    ("rust", [".rs"]),
    ("c", [".c", ".h"]),
    ("cpp", [".c++", ".cc", ".cpp", ".cxx", ".h++", ".hh", ".hpp", ".hxx"]),
    ("shell", [".bash", ".sh", ".zsh"])]

/-- The names of files of each language that their suffix does not tell. -/
def filenames : List (String × List String) :=
  [("rust", ["cargo.toml"]), ("shell", [".bashrc", ".profile", ".zshrc"])]

/-- The first language of a table that lists a text. -/
def lookup? (table : List (String × List String)) (text : String) : Option String :=
  (table.find? fun entry => entry.2.contains text).map Prod.fst

def lowerCase (s : String) : String := String.ofList (lower s.toList)

/-- The language of a file; names come before suffixes. -/
def detect? (path : Path) : Option String :=
  (lookup? filenames (lowerCase path.name)).or (lookup? suffixes (lowerCase path.suffix))

end LintRunner.Language
