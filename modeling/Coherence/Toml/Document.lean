import Coherence.Toml.Scalar
import Coherence.Toml.Table

set_option autoImplicit false

namespace Coherence.Toml

def depthLimit : Nat := 80

def isBare (c : Char) : Bool := c.isAlphanum || c = '_' || c = '-'

def simpleKey? (cs : List Char) : Option (String × List Char) :=
  match lineString? cs, cs.takeWhile isBare with
  | some found, _ => some found
  | none, [] => none
  | none, name => some (String.ofList name, cs.dropWhile isBare)

def keyParts? : Nat → List Char → Option (List String × List Char)
  | 0, _ => none
  | bound + 1, cs => do
      let (part, rest) ← simpleKey? (skipBlanks cs)
      match skipBlanks rest with
      | '.' :: rest => (keyParts? bound rest).map fun (parts, rest) => (part :: parts, rest)
      | rest => some ([part], rest)

def key? (cs : List Char) : Option ((List String × String) × List Char) := do
  let (parts, rest) ← keyParts? (depthLimit - 1) cs
  let last ← parts.getLast?
  some ((parts.dropLast, last), rest)

def pair? (value? : List Char → Option (Value × List Char)) (cs : List Char) : Option (Pair × List Char) := do
  let ((path, key), rest) ← key? cs
  let rest ← char? '=' rest
  let (value, rest) ← value? (skipBlanks rest)
  some (⟨path, key, value⟩, rest)

def items? (value? : List Char → Option (Value × List Char)) : Nat → List Char → Option (List Value × List Char)
  | 0, _ => none
  | bound + 1, cs => do
      match (← skipGaps? false cs) with
      | ']' :: rest => some ([], rest)
      | cs =>
          let (item, rest) ← value? cs
          match (← skipGaps? false rest) with
          | ',' :: rest => (items? value? bound rest).map fun (items, rest) => (item :: items, rest)
          | ']' :: rest => some ([item], rest)
          | _ => none

def pairs? (value? : List Char → Option (Value × List Char)) : Nat → List Char → Option (List Pair × List Char)
  | 0, _ => none
  | bound + 1, cs => do
      let (pair, rest) ← pair? value? cs
      match skipBlanks rest with
      | ',' :: rest => (pairs? value? bound rest).map fun (pairs, rest) => (pair :: pairs, rest)
      | '\x7d' :: rest => some ([pair], rest)
      | _ => none

def value? : Nat → List Char → Option (Value × List Char)
  | 0, cs => scalar? cs
  | depth + 1, cs =>
      match cs with
      | '[' :: rest => (items? (value? depth) (rest.length + 1) rest).map fun (items, rest) => (.array items, rest)
      | '\x7b' :: rest =>
          match skipBlanks rest with
          | '\x7d' :: rest => some (.table [], rest)
          | _ => do
              let (pairs, rest) ← pairs? (value? depth) (rest.length + 1) rest
              let table ← Pair.inline? pairs
              some (table, rest)
      | _ => scalar? cs

inductive Line where
  | header (path : List String) (key : String) (isElement : Bool)
  | pair (pair : Pair)

def line? : List Char → Option (Line × List Char)
  | '[' :: '[' :: rest => do
      let ((path, key), rest) ← key? rest
      let rest ← char? ']' rest
      let rest ← char? ']' rest
      some (.header path key true, rest)
  | '[' :: rest => do
      let ((path, key), rest) ← key? rest
      let rest ← char? ']' rest
      some (.header path key false, rest)
  | cs => (pair? (value? (depthLimit - 1)) cs).map fun (pair, rest) => (.pair pair, rest)

def lines? : Nat → List Char → Option (List Line)
  | 0, _ => none
  | bound + 1, cs =>
      match skipComment (skipBlanks cs) with
      | [] => some []
      | rest =>
          match newline? rest with
          | some rest => lines? bound rest
          | none => do
              let (line, rest) ← line? (skipBlanks cs)
              let rest ← lineEnd? rest
              (lines? bound rest).map (line :: ·)

def parts : List Line → List Pair × List Section
  | [] => ([], [])
  | .pair pair :: lines =>
      let (pairs, later) := parts lines
      (pair :: pairs, later)
  | .header path key isElement :: lines =>
      let (pairs, later) := parts lines
      ([], ⟨path, key, isElement, pairs⟩ :: later)

def ofText? (text : String) : Option Value := do
  let cs := match text.toList with
    | [] => []
    | c :: rest => if c = Char.ofNat 0xFEFF then rest else c :: rest
  let lines ← lines? (cs.length + 1) cs
  let (pairs, later) := parts lines
  let root ← Pair.insertAll? [] pairs
  let root ← Section.insertAll? root later
  some (.table (Item.fieldValues root))

end Coherence.Toml
