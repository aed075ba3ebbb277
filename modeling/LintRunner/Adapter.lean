import LintRunner.Text.Words
import LintRunner.Format.Token

/-!
# Adapters

An adapter pairs the command that starts a tool with the format of the tool's lines. The target of a
run is put into the command where the placeholder stands; it is data there, neither split nor looked
at again.
-/

set_option autoImplicit false

namespace LintRunner

open LintRunner.Text

/-- A tool: its name, the words of its command and the format of its lines. -/
structure Adapter where
  name : String
  command : List String
  format : Format
  description : String := ""
  name_ne : name ≠ ""
  command_ne : command ≠ []
  deriving DecidableEq

/-- A command as it is given: word by word, or as one text that a shell would split. -/
inductive Command where
  | words (words : List String)
  | template (text : String)
  deriving DecidableEq, Repr

/-! ## Commands -/

/-- The words of a shell-style text, of which there must be one at least. -/
def splitTemplate (template : String) : Except AdapterProblem (List String) :=
  match splitWords template.toList with
  | .error problem => .error (.badTemplate template problem)
  | .ok [] => .error .noCommand
  | .ok words => .ok (words.map String.ofList)

/-- The words of a command, of which there must be one at least. -/
def Command.toWords : Command → Except AdapterProblem (List String)
  | .words [] => .error .noCommand
  | .words list => .ok list
  | .template text => splitTemplate text

def hasPlaceholder : List Char → Bool
  | '%' :: 'f' :: _ => true
  | _ :: rest => hasPlaceholder rest
  | [] => false

def fillPlaceholder (target : List Char) : List Char → List Char
  | '%' :: 'f' :: rest => target ++ fillPlaceholder target rest
  | c :: rest => c :: fillPlaceholder target rest
  | [] => []

namespace Adapter

/-- The adapter with the given parts. The name is looked at first, then the format, then the
command. -/
def make (name : String) (command : Command) (format : Option Format) (description : String) :
    Except AdapterProblem Adapter :=
  if hn : name = "" then .error .unnamed
  else
    match format with
    | none => .error (.noFormat name)
    | some format =>
        match command.toWords with
        | .error problem => .error problem
        | .ok words =>
            if hw : words = [] then .error .noCommand
            else .ok { name, command := words, format, description, name_ne := hn, command_ne := hw }

/-- The adapter whose command is a shell-style text, which is split before anything else. -/
def ofTemplate (name template : String) (format : Option Format) (description : String) :
    Except AdapterProblem Adapter :=
  match splitTemplate template with
  | .error problem => .error problem
  | .ok words => make name (.words words) format description

/-- Whether the command has a place for a target. -/
def requiresTarget (adapter : Adapter) : Bool :=
  adapter.command.any fun word => hasPlaceholder word.toList

def executable (adapter : Adapter) : String := adapter.command.head adapter.command_ne

def buildCommand (adapter : Adapter) (target : Option String) : Except Failure (List String) :=
  if adapter.requiresTarget then
    match target with
    | none => .error (.targetRequired adapter.name)
    | some path =>
        .ok (adapter.command.map fun word =>
          String.ofList (fillPlaceholder path.toList word.toList))
  else .ok adapter.command

end Adapter

end LintRunner
