import LintRunner.Adapter

/-!
# Registries

A registry holds adapters by name and, for each language, the names of the adapters that are run for
it. Both keep the order in which their keys came. Language tags count as equal if they differ in
case and in blanks around them only.
-/

set_option autoImplicit false

namespace LintRunner

open LintRunner.Text

/-- The form of a language tag that is stored and looked up. -/
def normalizeLanguage (tag : String) : String := String.ofList (lower (trim tag.toList))

/-- The names of the adapters of each language. -/
abbrev Languages := List (String × List String)

/-- Adapters with pairwise different names, and languages that list them. -/
structure Registry where
  adapters : List Adapter
  languages : Languages
  deriving DecidableEq

namespace Registry

def get? (registry : Registry) (name : String) : Option Adapter :=
  registry.adapters.find? fun adapter => adapter.name == name

def get (registry : Registry) (name : String) : Except Failure Adapter :=
  match registry.get? name with
  | some adapter => .ok adapter
  | none => .error (.unknownAdapter name)

def names (registry : Registry) : List String := registry.adapters.map Adapter.name

def repeatedName? : List String → List String → Option String
  | _, [] => none
  | seen, name :: rest =>
      if seen.contains name then some name else repeatedName? (name :: seen) rest

/-- The first name in the lists of languages that is not among the given ones. -/
def unknownName? (known : List String) (languages : Languages) : Option String :=
  (languages.flatMap Prod.snd).find? fun name => !known.contains name

def normalizeLanguages (languages : Languages) : Languages :=
  Ordered.ofList (languages.map fun (tag, names) => (normalizeLanguage tag, names))

/-- The registry of the given adapters and languages. Names must differ, and languages may list
known names only. -/
def make (adapters : List Adapter) (languages : Languages) : Except Failure Registry :=
  let names := adapters.map Adapter.name
  match repeatedName? [] names with
  | some name => .error (.duplicateAdapter name)
  | none =>
      match unknownName? names languages with
      | some name => .error (.unknownAdapter name)
      | none => .ok { adapters, languages := normalizeLanguages languages }

/-- Puts an adapter in the place of the one of its name, or at the end. -/
def putAdapter (adapters : List Adapter) (adapter : Adapter) : List Adapter :=
  match adapters with
  | [] => [adapter]
  | first :: rest =>
      if first.name == adapter.name then adapter :: rest else first :: putAdapter rest adapter

/-- The registry with further adapters and languages, which replace those of the same names and
tags. -/
def merge (registry : Registry) (adapters : List Adapter) (languages : Languages) :
    Except Failure Registry :=
  make (adapters.foldl putAdapter registry.adapters)
    (Ordered.putAll registry.languages
      (languages.map fun (tag, names) => (normalizeLanguage tag, names)))

def supports (registry : Registry) (tag : String) : Bool :=
  (registry.languages.lookup (normalizeLanguage tag)).isSome

def adaptersFor (registry : Registry) (tag : String) : Except Failure (List Adapter) :=
  match registry.languages.lookup (normalizeLanguage tag) with
  | none => .error (.unsupportedLanguage tag)
  | some names => names.mapM registry.get

/-- Whether two registries have the same adapters, in whatever order; languages do not count. -/
def sameAdapters (a b : Registry) : Bool :=
  a.adapters.length == b.adapters.length &&
    a.adapters.all fun adapter => decide (b.get? adapter.name = some adapter)

end Registry

end LintRunner
