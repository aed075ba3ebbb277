import LintRunner.Regex.Node
import LintRunner.Regex.Symbol
import LintRunner.Text.Integer

/-!
# Constructs of a pattern

`readConstruct` takes one construct from the front of a text: a node, a repetition, the beginning or
the end of a group, a reference to a group, flags. What is taken depends on the flags in force and on
the text alone; what it means between the groups around it is the business of the reader.

A character cannot be given by its name: there is no table of names here, so `\N` with a name in braces is
malformed, though other readers of patterns take it.
-/

set_option autoImplicit false

namespace LintRunner.Regex

open LintRunner.Text

inductive Fault where
  /-- The text does not follow the grammar of patterns. -/
  | malformed
  /-- A repetition count is out of range. -/
  | countTooLarge
  /-- A repetition count has more digits than a number may have. -/
  | digitLimit (digits : Nat)
  deriving DecidableEq, Repr

/-! ## Flags -/

structure Scope where
  ignoreCase : Bool := false
  multiline : Bool := false
  dotAll : Bool := false
  verbose : Bool := false
  ascii : Bool := false
  /-- Repetitions are refused. -/
  unrepeated : Bool := false
  deriving DecidableEq, Repr

def Scope.rule (scope : Scope) : CaseRule :=
  if scope.ignoreCase then (if scope.ascii then .ascii else .unicode) else .exact

/-- Turns on the flags of some letters, then turns off those of others. -/
def Scope.adjust (scope : Scope) (add del : List Char) : Scope where
  ignoreCase := (scope.ignoreCase || add.contains 'i') && !del.contains 'i'
  multiline := (scope.multiline || add.contains 'm') && !del.contains 'm'
  dotAll := (scope.dotAll || add.contains 's') && !del.contains 's'
  verbose := (scope.verbose || add.contains 'x') && !del.contains 'x'
  ascii := if add.contains 'a' then true else if add.contains 'u' then false else scope.ascii
  unrepeated := scope.unrepeated || add.contains 't'

def isFlag (c : Char) : Bool := ['a', 'i', 'L', 'm', 's', 't', 'u', 'x'].contains c

/-- The letters of the flags that choose an alphabet; they exclude each other. -/
def isAlphabetFlag (c : Char) : Bool := ['a', 'L', 'u'].contains c

/-- The letters of the flags that concern the pattern as a whole. -/
def isWholeFlag (c : Char) : Bool := c == 't'

inductive FlagGroup where
  | whole (add : List Char)
  | inner (add del : List Char)

/-- Reads the letters that are turned off, up to the colon. -/
def readDroppedFlags (add : List Char) :
    List Char → List Symbol → Option (FlagGroup × List Symbol)
  | _, [] => none
  | del, s :: rest =>
      if s.isPlain ':' then
        if del.isEmpty || del.any isWholeFlag || add.any del.contains then none
        else some (.inner add del, rest)
      else if s.escaped || !isFlag s.char || isAlphabetFlag s.char then none
      else readDroppedFlags add (del ++ [s.char]) rest

/-- Reads the letters that are turned on and what ends them. -/
def readFlags : List Char → List Symbol → Option (FlagGroup × List Symbol)
  | _, [] => none
  | add, s :: rest =>
      if s.escaped then none
      else if isFlag s.char then
        let add' := add ++ [s.char]
        if s.char == 'L' || (isAlphabetFlag s.char && add'.any fun c => isAlphabetFlag c && c != s.char)
        then none
        else readFlags add' rest
      else if s.char == ')' then if add.isEmpty then none else some (.whole add, rest)
      else if add.any isWholeFlag then none
      else if s.char == ':' then if add.isEmpty then none else some (.inner add [], rest)
      else if s.char == '-' then readDroppedFlags add [] rest
      else none

/-! ## Escapes -/

/-- The escapes that name one control character, outside of sets. -/
def controlEscape? (c : Char) : Option Nat :=
  [('a', 7), ('f', 12), ('n', 10), ('r', 13), ('t', 9), ('v', 11), ('\\', 92)].lookup c

def categoryEscape? (c : Char) (ascii : Bool) : Option Member :=
  match c with
  | 'd' => some (.category .digit false ascii)
  | 'D' => some (.category .digit true ascii)
  | 's' => some (.category .blank false ascii)
  | 'S' => some (.category .blank true ascii)
  | 'w' => some (.category .word false ascii)
  | 'W' => some (.category .word true ascii)
  | _ => none

def anchorEscape? (c : Char) (ascii : Bool) : Option Anchor :=
  match c with
  | 'A' => some .textStart
  | 'Z' => some .textEnd
  | 'b' => some (.boundary false ascii)
  | 'B' => some (.boundary true ascii)
  | _ => none

def ofBase (base : Nat) (cs : List Char) : Nat :=
  cs.foldl (fun n c => base * n + (hexValue? c).getD 0) 0

def isOctal (c : Char) : Bool := '0' ≤ c && c ≤ '7'

/-- The last code point that three octal digits may name. -/
def octalEnd : Nat := 0o377

/-- How many hexadecimal digits follow an escape that names a code point. -/
def hexEscape? (c : Char) : Option Nat := [('x', 2), ('u', 4), ('U', 8)].lookup c

def readHex (width : Nat) (rest : List Symbol) : Option (Nat × List Symbol) :=
  let (ds, rest') := Symbol.takePlain (fun c => (hexValue? c).isSome) width rest
  let n := ofBase 16 ds
  if ds.length = width && n < 0x110000 then some (n, rest') else none

def readSetEscape (ascii : Bool) (c : Char) (rest : List Symbol) :
    Option (Member × List Symbol) :=
  if c == 'b' then some (.code 8, rest)
  else match controlEscape? c with
  | some n => some (.code n, rest)
  | none =>
    match categoryEscape? c ascii with
    | some member => some (member, rest)
    | none =>
      match hexEscape? c with
      | some width => (readHex width rest).map fun (n, rest') => (.code n, rest')
      | none =>
        if isOctal c then
          let (ds, rest') := Symbol.takePlain isOctal 2 rest
          let n := ofBase 8 (c :: ds)
          if n ≤ octalEnd then some (.code n, rest') else none
        else if isAsciiDigit c || isAsciiLetter c then none
        else some (.code c.toNat, rest)

/-! ## Sets -/

def readMember (ascii : Bool) (s : Symbol) (rest : List Symbol) : Option (Member × List Symbol) :=
  if s.escaped then readSetEscape ascii s.char rest else some (.code s.char.toNat, rest)

/-- Reads the members of a set up to its closing bracket, which ends the set unless it stands first.
The first argument bounds the number of members. -/
def readMembers (ascii : Bool) :
    Nat → List Member → List Symbol → Option (List Member × List Symbol)
  | 0, _, _ => none
  | _, _, [] => none
  | fuel + 1, members, s :: rest =>
      if s.isPlain ']' && !members.isEmpty then some (members, rest)
      else do
        let (first, rest₁) ← readMember ascii s rest
        match rest₁ with
        | [] => none
        | dash :: rest₂ =>
            if dash.isPlain '-' then
              match rest₂ with
              | [] => none
              | t :: rest₃ =>
                  if t.isPlain ']' then some (members ++ [first, .code '-'.toNat], rest₃)
                  else
                    match first, ← readMember ascii t rest₃ with
                    | .code lo, (.code hi, rest₄) =>
                        if lo ≤ hi then readMembers ascii fuel (members ++ [.range lo hi]) rest₄
                        else none
                    | _, _ => none
            else readMembers ascii fuel (members ++ [first]) rest₁

/-- Reads a set whose opening bracket has been taken. -/
def readSet (scope : Scope) (rest : List Symbol) : Option (Node × List Symbol) := do
  let (negated, rest₁) :=
    match Symbol.dropPlain? '^' rest with
    | some rest' => (true, rest')
    | none => (false, rest)
  let (members, rest₂) ← readMembers scope.ascii (rest₁.length + 1) [] rest₁
  match members.eraseDups with
  | [.code n] => return (.code n negated scope.rule, rest₂)
  | members' => return (.set members' negated scope.rule, rest₂)

/-! ## Constructs -/

inductive Construct where
  /-- Blanks and comments. -/
  | skip
  | atom (node : Node)
  /-- What the group of a number captured. -/
  | refer (group : Nat)
  /-- What the group of a name captured. -/
  | referTo (name : List Char)
  | repetition (greed : Greed) (least : Nat) (most : Option Nat)
  | plainGroup
  | flagGroup (add del : List Char)
  | captureGroup (name : Option (List Char))
  | atomicGroup
  | lookAhead (negated : Bool)
  | lookBehind (negated : Bool)
  /-- A choice by whether the group of a name or number took part. -/
  | condition (name : List Char)
  | close
  | branch
  /-- Flags for the whole pattern. -/
  | flags (add : List Char)
  deriving DecidableEq, Repr

def orMalformed {α : Type} : Option α → Except Fault α
  | some a => .ok a
  | none => .error .malformed

/-! ## Escapes outside of sets -/

/-- Reads a back reference or an octal escape that begins with the digit `c`, not zero. -/
def readNumberEscape (scope : Scope) (c : Char) (rest : List Symbol) :
    Option (Construct × List Symbol) :=
  let (more, rest₁) := Symbol.takePlain isAsciiDigit 1 rest
  let (third, rest₂) :=
    if (c :: more).length = 2 && (c :: more).all isOctal then Symbol.takePlain isOctal 1 rest₁
    else ([], rest₁)
  if third.isEmpty then some (.refer (ofBase 10 (c :: more)), rest₁)
  else
    let n := ofBase 8 (c :: more ++ third)
    if n ≤ octalEnd then some (.atom (.code n false scope.rule), rest₂) else none

def readEscape (scope : Scope) (c : Char) (rest : List Symbol) :
    Option (Construct × List Symbol) :=
  let code := fun n => Construct.atom (.code n false scope.rule)
  match anchorEscape? c scope.ascii, categoryEscape? c scope.ascii, controlEscape? c with
  | some a, _, _ => some (.atom (.anchor a), rest)
  | _, some member, _ => some (.atom (.set [member] false scope.rule), rest)
  | _, _, some n => some (code n, rest)
  | none, none, none =>
    match hexEscape? c with
    | some width => (readHex width rest).map fun (n, rest') => (code n, rest')
    | none =>
      if c == '0' then
        let (ds, rest') := Symbol.takePlain isOctal 2 rest
        some (code (ofBase 8 ds), rest')
      else if isAsciiDigit c then readNumberEscape scope c rest
      else if isAsciiLetter c then none
      else some (code c.toNat, rest)

/-! ## Repetitions -/

/-- The bounds between braces, with the rest of the text; `none` if the opening brace begins no
repetition and stands for itself. -/
def readBounds (rest : List Symbol) : Option ((List Char × Option (List Char)) × List Symbol) :=
  let (lo, rest₁) := Symbol.takePlain isAsciiDigit rest.length rest
  match Symbol.dropPlain? ',' rest₁ with
  | some rest₂ =>
      let (hi, rest₃) := Symbol.takePlain isAsciiDigit rest₂.length rest₂
      (Symbol.dropPlain? '\x7d' rest₃).map fun rest₄ => ((lo, some hi), rest₄)
  | none =>
      if lo.isEmpty then none
      else (Symbol.dropPlain? '\x7d' rest₁).map fun rest₂ => ((lo, none), rest₂)

/-- Repetition counts from here on are out of range. -/
def countEnd : Nat := 4294967295

def readCount (ds : List Char) : Except Fault (Option Nat) :=
  if ds.isEmpty then .ok none
  else if maxDigits < ds.length then .error (.digitLimit ds.length)
  else
    let n := ofBase 10 ds
    if countEnd ≤ n then .error .countTooLarge else .ok (some n)

/-- Reads the sign behind a repetition that says how it chooses. -/
def readGreed (rest : List Symbol) : Greed × List Symbol :=
  match Symbol.dropPlain? '?' rest, Symbol.dropPlain? '+' rest with
  | some r, _ => (.lazy, r)
  | _, some r => (.possessive, r)
  | none, none => (.greedy, rest)

def repetitionOf (least : Nat) (most : Option Nat) (rest : List Symbol) :
    Construct × List Symbol :=
  let (greed, rest') := readGreed rest
  (.repetition greed least most, rest')

/-- Reads a repetition whose sign has been taken. -/
def readRepetition (scope : Scope) (c : Char) (rest : List Symbol) :
    Except Fault (Construct × List Symbol) :=
  if c == '?' then .ok (repetitionOf 0 (some 1) rest)
  else if c == '*' then .ok (repetitionOf 0 none rest)
  else if c == '+' then .ok (repetitionOf 1 none rest)
  else
    match readBounds rest with
    | none => .ok (.atom (.code c.toNat false scope.rule), rest)
    | some ((lo, hi), rest') => do
        let least ← readCount lo
        let most ←
          match hi with
          | some ds => readCount ds
          | none => pure least
        match most with
        | some n => if n < least.getD 0 then throw .malformed
        | none => pure ()
        return repetitionOf (least.getD 0) most rest'

/-! ## Groups -/

/-- Reads what follows an opening parenthesis and a question mark. -/
def readExtension : List Symbol → Option (Construct × List Symbol)
  | [] => none
  | s :: rest =>
      if s.escaped then none
      else
        match s.char with
        | ':' => some (.plainGroup, rest)
        | '>' => some (.atomicGroup, rest)
        | '=' => some (.lookAhead false, rest)
        | '!' => some (.lookAhead true, rest)
        | '<' =>
            match rest with
            | [] => none
            | t :: rest' =>
                if t.isPlain '=' then some (.lookBehind false, rest')
                else if t.isPlain '!' then some (.lookBehind true, rest')
                else none
        | '#' => (Symbol.takeUntil? ')' rest).map fun (_, rest') => (.skip, rest')
        | '(' => (Symbol.takeUntil? ')' rest).map fun (name, rest') => (.condition name, rest')
        | 'P' =>
            match Symbol.dropPlain? '<' rest, Symbol.dropPlain? '=' rest with
            | some rest', _ =>
                match Symbol.takeUntil? '>' rest' with
                | some (name, rest'') =>
                    if isIdentifier name then some (.captureGroup (some name), rest'') else none
                | none => none
            | none, some rest' =>
                (Symbol.takeUntil? ')' rest').map fun (name, rest'') => (.referTo name, rest'')
            | none, none => none
        | _ =>
            (readFlags [] (s :: rest)).map fun
              | (.whole add, rest') => (.flags add, rest')
              | (.inner add del, rest') => (.flagGroup add del, rest')

/-! ## All constructs -/

/-- The symbols behind the next plain line feed. -/
def dropComment : List Symbol → List Symbol
  | [] => []
  | s :: rest => if s.isPlain '\n' then rest else dropComment rest

/-- Takes the construct that begins with a symbol. -/
def readConstruct (scope : Scope) (s : Symbol) (rest : List Symbol) :
    Except Fault (Construct × List Symbol) :=
  if s.escaped then orMalformed (readEscape scope s.char rest)
  else if s.char == ')' then .ok (.close, rest)
  else if s.char == '|' then .ok (.branch, rest)
  else if scope.verbose && isAsciiBlank s.char then .ok (.skip, rest)
  else if scope.verbose && s.char == '#' then .ok (.skip, dropComment rest)
  else
    match s.char with
    | '[' => orMalformed ((readSet scope rest).map fun (node, rest') => (.atom node, rest'))
    | '(' =>
        match Symbol.dropPlain? '?' rest with
        | some rest' => orMalformed (readExtension rest')
        | none => .ok (.captureGroup none, rest)
    | '*' | '+' | '?' | '\x7b' => readRepetition scope s.char rest
    | '.' => .ok (.atom (.any scope.dotAll), rest)
    | '^' => .ok (.atom (.anchor (if scope.multiline then .lineStart else .textStart)), rest)
    | '$' => .ok (.atom (.anchor (if scope.multiline then .lineEnd else .finalEnd)), rest)
    | c => .ok (.atom (.code c.toNat false scope.rule), rest)

end LintRunner.Regex
