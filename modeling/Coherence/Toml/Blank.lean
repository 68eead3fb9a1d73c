set_option autoImplicit false

namespace Coherence.Toml

def isBlank (c : Char) : Bool := c = ' ' || c = '\t'

def isPlain (c : Char) : Bool := c = '\t' || (' ' ≤ c && c ≠ Char.ofNat 0x7F)

def skipBlanks (cs : List Char) : List Char := cs.dropWhile isBlank

def newline? : List Char → Option (List Char)
  | '\n' :: rest => some rest
  | '\r' :: '\n' :: rest => some rest
  | _ => none

def skipComment : List Char → List Char
  | '#' :: rest => rest.dropWhile isPlain
  | cs => cs

def lineEnd? (cs : List Char) : Option (List Char) :=
  match skipComment (skipBlanks cs) with
  | [] => some []
  | rest => newline? rest

def skipLines : List Char → List Char
  | ' ' :: rest => skipLines rest
  | '\t' :: rest => skipLines rest
  | '\n' :: rest => skipLines rest
  | '\r' :: '\n' :: rest => skipLines rest
  | cs => cs

def skipGaps? (inComment : Bool) : List Char → Option (List Char)
  | [] => if inComment then none else some []
  | '\n' :: rest => skipGaps? false rest
  | '\r' :: '\n' :: rest => skipGaps? false rest
  | c :: rest =>
      if inComment then if isPlain c then skipGaps? true rest else none
      else if isBlank c then skipGaps? false rest
      else if c = '#' then skipGaps? true rest
      else some (c :: rest)

end Coherence.Toml
