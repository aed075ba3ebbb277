import LintRunner.Path
import LintRunner.Text.Lines

/-!
# Arguments

How the arguments of a command are read. Options are long, with two hyphens and a word, or short, with
a hyphen and a character; short options may share one hyphen. The value of an option is the rest of
its argument or the next argument, whatever that looks like. Two hyphens alone end the options.
-/

set_option autoImplicit false

namespace LintRunner.Cli

/-! ## Options in general -/

/-- An option: the key that it is known by, its names, and whether it takes a value. -/
structure Switch where
  key : String
  names : List String
  takesValue : Bool
  deriving DecidableEq, Repr

structure Arguments where
  options : List (String × String) := []
  others : List String := []
  deriving DecidableEq, Repr

namespace Arguments

def addOption (key value : String) (a : Arguments) : Arguments :=
  { a with options := (key, value) :: a.options }

def addFlags (keys : List String) (a : Arguments) : Arguments :=
  { a with options := keys.map (·, "") ++ a.options }

def addOther (arg : String) (a : Arguments) : Arguments := { a with others := arg :: a.others }

def has (a : Arguments) (key : String) : Bool := a.options.any fun option => option.1 == key

/-- The value of an option, the last one if it was given several times. -/
def value? (a : Arguments) (key : String) : Option String :=
  (a.options.reverse.find? fun option => option.1 == key).map Prod.snd

end Arguments

def switchNamed? (switches : List Switch) (name : String) : Option Switch :=
  switches.find? fun switch => switch.names.contains name

/-- Short options that share a hyphen: those without a value, and one that takes a value, with the
characters behind it. -/
structure Cluster where
  flags : List String
  valued : Option (String × List Char)
  deriving DecidableEq, Repr

def Cluster.read? (switches : List Switch) : List Char → Option Cluster
  | [] => some { flags := [], valued := none }
  | c :: rest =>
      match switchNamed? switches (String.ofList ['-', c]) with
      | none => none
      | some switch =>
          if switch.takesValue then some { flags := [], valued := some (switch.key, rest) }
          else (read? switches rest).map fun cluster =>
            { cluster with flags := switch.key :: cluster.flags }

/-- The name of a long option, and the value behind an equals sign, if there is one. -/
def splitLong (arg : List Char) : List Char × Option (List Char) :=
  match arg.dropWhile fun c => c != '=' with
  | [] => (arg, none)
  | _ :: value => (arg.takeWhile fun c => c != '=', some value)

/-- Reads arguments; the result is `none` if an option is not known or lacks its value, or if one that
takes no value is given one. -/
def Arguments.read? (switches : List Switch) : List String → Option Arguments
  | [] => some {}
  | arg :: rest =>
      match arg.toList with
      | ['-', '-'] => some { others := rest }
      | '-' :: '-' :: _ =>
          let (name, attached) := splitLong arg.toList
          match switchNamed? switches (String.ofList name), attached with
          | none, _ => none
          | some { takesValue := false, key, .. }, none =>
              (read? switches rest).map (addOption key "")
          | some { takesValue := false, .. }, some _ => none
          | some { takesValue := true, key, .. }, some value =>
              (read? switches rest).map (addOption key (String.ofList value))
          | some { takesValue := true, key, .. }, none =>
              match rest with
              | value :: rest => (read? switches rest).map (addOption key value)
              | [] => none
      | '-' :: c :: cs =>
          match Cluster.read? switches (c :: cs) with
          | none => none
          | some { flags, valued := none } => (read? switches rest).map (addFlags flags)
          | some { flags, valued := some (key, []) } =>
              match rest with
              | value :: rest =>
                  (read? switches rest).map fun a => addFlags flags (addOption key value a)
              | [] => none
          | some { flags, valued := some (key, value) } =>
              (read? switches rest).map fun a =>
                addFlags flags (addOption key (String.ofList value) a)
      | _ => (read? switches rest).map (addOther arg)

/-! ## Commands -/

inductive OutputMode where
  | text
  | pretty
  | json
  deriving DecidableEq, Repr

def OutputMode.ofName? : String → Option OutputMode
  | "text" => some .text
  | "pretty" => some .pretty
  | "json" => some .json
  | _ => none

structure LintRequest where
  target : Option Path := none
  language : Option String := none
  output : OutputMode := .text
  config : Option Path := none
  skipMissing : Bool := false
  verbose : Bool := false
  signs : Bool := true
  deriving DecidableEq, Repr

inductive Request where
  | lint (request : LintRequest)
  | languages (config : Option Path)
  | adapters (config : Option Path)
  deriving DecidableEq, Repr

def Request.config? : Request → Option Path
  | lint request => request.config
  | languages config | adapters config => config

def configSwitch : Switch := { key := "config", names := ["--config", "-c"], takesValue := true }

def lintSwitches : List Switch :=
  [{ key := "language", names := ["--language", "-l"], takesValue := true },
    { key := "output", names := ["--output", "-o"], takesValue := true },
    configSwitch,
    { key := "skip-missing", names := ["--skip-missing"], takesValue := false },
    { key := "verbose", names := ["--verbose", "-v"], takesValue := false },
    { key := "no-emoji", names := ["--no-emoji"], takesValue := false }]

def configPath? (a : Arguments) : Option Path := (a.value? "config").map Path.ofString

/-- Reads the arguments of a lint run. There may be one target; an empty language counts as none. -/
def LintRequest.read? (args : List String) : Option LintRequest := do
  let a ← Arguments.read? lintSwitches args
  let target ←
    match a.others with
    | [] => some none
    | [target] => some (some (Path.ofString target))
    | _ => none
  let output ←
    match a.value? "output" with
    | none => some OutputMode.text
    | some word => OutputMode.ofName? word
  return { target, output
           language := (a.value? "language").filter fun tag => tag != ""
           config := configPath? a
           skipMissing := a.has "skip-missing"
           verbose := a.has "verbose"
           signs := !a.has "no-emoji" }

/-- Reads the arguments of a command that takes nothing but a configuration file. -/
def readConfigOnly? (args : List String) : Option (Option Path) := do
  let a ← Arguments.read? [configSwitch] args
  if a.others.isEmpty then some (configPath? a) else none

def Request.ofCommand? (name : String) (args : List String) : Option Request :=
  match name with
  | "lint" => (LintRequest.read? args).map .lint
  | "languages" => (readConfigOnly? args).map .languages
  | "adapters" => (readConfigOnly? args).map .adapters
  | _ => none

/-- Reads all arguments; the first one names the command, with or without two hyphens before it. -/
def Request.read? : List String → Option Request
  | "--" :: name :: args | name :: args => Request.ofCommand? name args
  | [] => none

end LintRunner.Cli
