import LintRunner.Registry

/-!
# Built-in tools

The formats and adapters that are known without configuration, and the languages they are run for.
-/

set_option autoImplicit false

namespace LintRunner.Catalogue

/-! ## Formats -/

/-- What file, line and column look like in all built-in formats. -/
def position : List Token := [.filename, .literal ":", .line, .literal ":", .column]

def labels (entries : List (String × Severity)) : Labels :=
  entries.map fun (label, severity) => (label, .known severity)

/-- Lines such as `a.rs:1:5: warning: unused`; the severity is the first word of the message. -/
def gccFormat : Format where
  tokens := position ++
    [.literal ": ", .message "message", .severityFromMessage none Classifier.blanks]
  fallback := .warning
  valid := by decide

/-- Lines such as `a.c:1:5: fatal error: b.h: No such file`; the label is not part of the message. -/
def ccFormat : Format where
  tokens := position ++
    [.literal ": ",
      .severityPattern "fatal error|error|warning|note"
        (labels [("fatal error", .error), ("note", .info)]) Classifier.blanks,
      .literal ": ", .message "message"]
  fallback := .warning
  valid := by decide

/-- Lines such as `a.py:1:8: F401 unused import`. -/
def ruffFormat : Format where
  tokens := position ++
    [.literal ": ", .code "" false, .whitespace, .message "message",
      .severityFixed (.known .warning)]
  fallback := .warning
  valid := by decide

/-- Lines such as `a.py:3:5: error: Incompatible types`. -/
def mypyFormat : Format where
  tokens := position ++
    [.literal ": ",
      .severityPattern "error|warning|note" (labels [("note", .info)]) Classifier.blanks,
      .literal ": ", .message "message"]
  fallback := .warning
  valid := by decide

/-- Lines such as `a.py:1:0:C:C0114 Missing docstring`. -/
def pylintFormat : Format where
  tokens := position ++
    [.literal ":",
      .severityPattern "[CRWEFI]"
        (labels [("C", .info), ("R", .info), ("I", .info), ("W", .warning), ("E", .error),
          ("F", .error)]) Classifier.blanks,
      .literal ":", .code "" false, .whitespace, .message "message"]
  fallback := .warning
  valid := by decide

/-- Lines such as `a.js:1:10: x is never used. [Error/no-unused-vars]`; the rule may be absent. -/
def eslintFormat : Format where
  tokens := position ++
    [.literal ": ", .message "message", .literal " [",
      .severityPattern "Error|Warning" (labels [("error", .error), ("warning", .warning)])
        Classifier.blanks,
      .code "/" true, .literal "]"]
  fallback := .warning
  valid := by decide

/-- Lines such as `a.go:5:2: wrong type`. -/
def govetFormat : Format where
  tokens := position ++
    [.literal ": ", .message "message", .severityFixed (.known .warning)]
  fallback := .warning
  valid := by decide

def formats : List (String × Format) :=
  [("gcc", gccFormat), ("cc", ccFormat), ("ruff", ruffFormat), ("mypy", mypyFormat),
    ("pylint", pylintFormat), ("eslint", eslintFormat), ("govet", govetFormat)]

/-! ## Adapters -/

def adapters : List Adapter :=
  [ { name := "ruff"
      command := ["ruff", "check", "--output-format=concise", "--no-cache", "--no-fix", "%f"]
      format := ruffFormat
      description := "Ruff linter (concise output)."
      name_ne := by decide
      command_ne := by decide },
    { name := "mypy"
      command := ["mypy", "--show-column-numbers", "--no-error-summary", "--no-color-output",
        "--no-pretty", "%f"]
      format := mypyFormat
      description := "mypy static type checker."
      name_ne := by decide
      command_ne := by decide },
    { name := "pylint"
      command := ["pylint", "--score=n",
        "--msg-template=\x7bpath\x7d:\x7bline\x7d:\x7bcolumn\x7d:\x7bC\x7d:\x7bmsg_id\x7d \x7bmsg\x7d",
        "%f"]
      format := pylintFormat
      description := "Pylint with single-letter category remapping."
      name_ne := by decide
      command_ne := by decide },
    { name := "clippy"
      command := ["cargo", "clippy", "--quiet", "--message-format=short"]
      format := gccFormat
      description := "Cargo clippy; lints the enclosing Cargo project."
      name_ne := by decide
      command_ne := by decide },
    { name := "gcc"
      command := ["gcc", "-fsyntax-only", "-Wall", "-Wextra", "%f"]
      format := ccFormat
      description := "GCC syntax-only compile with warnings."
      name_ne := by decide
      command_ne := by decide },
    { name := "clang"
      command := ["clang", "-fsyntax-only", "-Wall", "-Wextra", "%f"]
      format := ccFormat
      description := "Clang syntax-only compile with warnings."
      name_ne := by decide
      command_ne := by decide },
    { name := "shellcheck"
      command := ["shellcheck", "--format=gcc", "%f"]
      format := gccFormat
      description := "ShellCheck in gcc-compatible output mode."
      name_ne := by decide
      command_ne := by decide },
    { name := "eslint"
      command := ["eslint", "--format", "unix", "%f"]
      format := eslintFormat
      description := "ESLint with the unix formatter."
      name_ne := by decide
      command_ne := by decide },
    { name := "govet"
      command := ["go", "vet", "%f"]
      format := govetFormat
      description := "go vet."
      name_ne := by decide
      command_ne := by decide } ]

def languages : Languages :=
  [("python", ["ruff", "mypy"]), ("rust", ["clippy"]), ("c", ["gcc"]), ("cpp", ["clang"]),
    ("shell", ["shellcheck"]), ("javascript", ["eslint"]), ("typescript", ["eslint"]),
    ("go", ["govet"])]

/-- The registry of the built-in adapters; its tags are in their stored form already. -/
def registry : Registry := { adapters, languages }

end LintRunner.Catalogue
