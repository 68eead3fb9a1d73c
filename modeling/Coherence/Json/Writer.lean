set_option autoImplicit false

namespace Coherence

inductive Json where
  | number (n : Nat)
  | string (text : String)
  | array (items : List Json)
  | object (fields : List (String × Json))

namespace Json

def hexDigit (n : Nat) : Char := Nat.digitChar n

def escapeChar (c : Char) : List Char :=
  if c = '"' then ['\\', '"']
  else if c = '\\' then ['\\', '\\']
  else if c = Char.ofNat 8 then ['\\', 'b']
  else if c = Char.ofNat 12 then ['\\', 'f']
  else if c = '\n' then ['\\', 'n']
  else if c = '\r' then ['\\', 'r']
  else if c = '\t' then ['\\', 't']
  else if c.toNat < 0x20 then ['\\', 'u', '0', '0', hexDigit (c.toNat / 16), hexDigit (c.toNat % 16)]
  else [c]

def literalChars (text : String) : List Char := '"' :: text.toList.flatMap escapeChar ++ ['"']

mutual

def chars : Json → List Char
  | .number n => Nat.toDigits 10 n
  | .string text => literalChars text
  | .array items => '[' :: itemsChars items ++ [']']
  | .object fields => '\x7b' :: fieldsChars fields ++ ['\x7d']

def itemsChars : List Json → List Char
  | [] => []
  | [item] => chars item
  | item :: items => chars item ++ ',' :: itemsChars items

def fieldsChars : List (String × Json) → List Char
  | [] => []
  | [(key, value)] => literalChars key ++ ':' :: chars value
  | (key, value) :: fields => literalChars key ++ ':' :: chars value ++ ',' :: fieldsChars fields

end

def text (json : Json) : String := String.ofList json.chars

def newLine (level : Nat) : List Char := '\n' :: List.replicate (2 * level) ' '

mutual

def prettyChars (level : Nat) : Json → List Char
  | .number n => Nat.toDigits 10 n
  | .string text => literalChars text
  | .array [] => ['[', ']']
  | .array items => '[' :: prettyItems (level + 1) items ++ newLine level ++ [']']
  | .object [] => ['\x7b', '\x7d']
  | .object fields => '\x7b' :: prettyFields (level + 1) fields ++ newLine level ++ ['\x7d']

def prettyItems (level : Nat) : List Json → List Char
  | [] => []
  | [item] => newLine level ++ prettyChars level item
  | item :: items => newLine level ++ prettyChars level item ++ ',' :: prettyItems level items

def prettyFields (level : Nat) : List (String × Json) → List Char
  | [] => []
  | [(key, value)] => newLine level ++ literalChars key ++ ':' :: ' ' :: prettyChars level value
  | (key, value) :: fields =>
      newLine level ++ literalChars key ++ ':' :: ' ' :: prettyChars level value ++ ',' :: prettyFields level fields

end

def prettyText (json : Json) : String := String.ofList (json.prettyChars 0)

def strings (texts : List String) : Json := .array (texts.map .string)

end Json

end Coherence
