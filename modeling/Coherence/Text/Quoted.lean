import Coherence.Text.Shown

set_option autoImplicit false

namespace Coherence.Text

def hex (n : Nat) : List Char := Nat.toDigits 16 n

-- Quote and backslash are escaped, four controls have a letter, and what is not shown is written by its code point.
def quoteChar (c : Char) : List Char :=
  if c = '"' then ['\\', '"']
  else if c = '\\' then ['\\', '\\']
  else if c = '\n' then ['\\', 'n']
  else if c = '\r' then ['\\', 'r']
  else if c = '\t' then ['\\', 't']
  else if c = Char.ofNat 0 then ['\\', '0']
  else if isShown c then [c]
  else ['\\', 'u', '\x7b'] ++ hex c.toNat ++ ['\x7d']

def quoted (text : String) : String :=
  String.ofList ('"' :: text.toList.flatMap quoteChar ++ ['"'])

def quotedList (texts : List String) : String :=
  "[" ++ ", ".intercalate (texts.map quoted) ++ "]"

example : quoted "a\"b\\\n" = "\"a\\\"b\\\\\\n\"" := by decide +kernel

end Coherence.Text
