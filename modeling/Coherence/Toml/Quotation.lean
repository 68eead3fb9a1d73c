import Coherence.Toml.Blank

set_option autoImplicit false

namespace Coherence.Toml

def hexValue? (c : Char) : Option Nat :=
  if c.isDigit then some (c.toNat - '0'.toNat)
  else if 'a' ≤ c && c ≤ 'f' then some (c.toNat - 'a'.toNat + 10)
  else if 'A' ≤ c && c ≤ 'F' then some (c.toNat - 'A'.toNat + 10)
  else none

def codePoint? (width : Nat) (cs : List Char) : Option (Char × List Char) := do
  let digits ← (cs.take width).mapM hexValue?
  let code := digits.foldl (fun n d => 16 * n + d) 0
  if digits.length = width ∧ code.isValidChar then some (Char.ofNat code, cs.drop width) else none

def escape? : List Char → Option (Char × List Char)
  | [] => none
  | c :: rest =>
      if c = 'b' then some (Char.ofNat 8, rest)
      else if c = 't' then some ('\t', rest)
      else if c = 'n' then some ('\n', rest)
      else if c = 'f' then some (Char.ofNat 12, rest)
      else if c = 'r' then some ('\r', rest)
      else if c = '"' then some ('"', rest)
      else if c = '\\' then some ('\\', rest)
      else if c = 'u' then codePoint? 4 rest
      else if c = 'U' then codePoint? 8 rest
      else none

def oneLine? (quote : Char) : Nat → List Char → Option (List Char × List Char)
  | 0, _ => none
  | _, [] => none
  | bound + 1, c :: rest =>
      if c = quote then some ([], rest)
      else if c = '\\' ∧ quote = '"' then do
        let (meant, rest) ← escape? rest
        let (more, rest) ← oneLine? quote bound rest
        some (meant :: more, rest)
      else if isPlain c then (oneLine? quote bound rest).map fun (more, rest) => (c :: more, rest)
      else none

def lineBreak? (cs : List Char) : Option (List Char) := (newline? (skipBlanks cs)).map skipLines

-- One or two quotes are part of the string, also right before the three that end it.
def manyLines? (quote : Char) : Nat → List Char → Option (List Char × List Char)
  | 0, _ => none
  | _, [] => none
  | bound + 1, c :: rest =>
      if c = quote then
        let run := ((c :: rest).takeWhile (· = quote)).length
        if run < 3 then
          (manyLines? quote bound ((c :: rest).drop run)).map fun (more, rest) =>
            (List.replicate run quote ++ more, rest)
        else
          let inside := min (run - 3) 2
          some (List.replicate inside quote, (c :: rest).drop (inside + 3))
      else if c = '\\' ∧ quote = '"' then
        match lineBreak? rest with
        | some rest => manyLines? quote bound rest
        | none => do
            let (meant, rest) ← escape? rest
            let (more, rest) ← manyLines? quote bound rest
            some (meant :: more, rest)
      else
        match newline? (c :: rest) with
        | some rest => (manyLines? quote bound rest).map fun (more, rest) => ('\n' :: more, rest)
        | none =>
            if isPlain c then (manyLines? quote bound rest).map fun (more, rest) => (c :: more, rest) else none

def spelled (found : List Char × List Char) : String × List Char := (String.ofList found.1, found.2)

def lineString? : List Char → Option (String × List Char)
  | [] => none
  | c :: rest => if c = '"' ∨ c = '\'' then (oneLine? c (rest.length + 1) rest).map spelled else none

def anyString? (cs : List Char) : Option (String × List Char) :=
  match cs with
  | a :: b :: c :: rest =>
      if a = b ∧ b = c ∧ (c = '"' ∨ c = '\'') then
        let body := (newline? rest).getD rest
        (manyLines? c (body.length + 1) body).map spelled
      else lineString? cs
  | _ => lineString? cs

end Coherence.Toml
