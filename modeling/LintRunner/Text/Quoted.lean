import LintRunner.Text.CharClass

/-!
# Quoted texts

How messages show a text that may hold anything: between single quotes, or between double quotes if
it holds a single quote and no double one. Characters that cannot be shown are written as escapes, so
the quoted text is one line and determines the text.
-/

set_option autoImplicit false

namespace LintRunner.Text

def quoteFor (cs : List Char) : Char :=
  if cs.contains '\'' && !cs.contains '"' then '"' else '\''

def quoteChar (quote c : Char) : List Char :=
  if c == quote || c == '\\' then ['\\', c]
  else if c == '\n' then ['\\', 'n']
  else if c == '\r' then ['\\', 'r']
  else if c == '\t' then ['\\', 't']
  else if isPrintable c then [c]
  else if c.toNat < 0x100 then '\\' :: 'x' :: hexDigits 2 c.toNat
  else if c.toNat < 0x10000 then '\\' :: 'u' :: hexDigits 4 c.toNat
  else '\\' :: 'U' :: hexDigits 8 c.toNat

def quotedChars (cs : List Char) : List Char :=
  let quote := quoteFor cs
  quote :: cs.flatMap (quoteChar quote) ++ [quote]

def quoted (s : String) : String := String.ofList (quotedChars s.toList)

end LintRunner.Text
