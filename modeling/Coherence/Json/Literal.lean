import Coherence.Text.Bytes

set_option autoImplicit false

namespace Coherence.Json

inductive Piece where
  | byte (b : UInt8)
  | unit (code : UInt16)
deriving DecidableEq

inductive Scan where
  | plain
  | escape
  | digits (left : Nat) (code : UInt16)

def hexValue? (b : UInt8) : Option UInt16 :=
  if '0'.toUInt8 ≤ b ∧ b ≤ '9'.toUInt8 then some (b - '0'.toUInt8).toUInt16
  else if 'a'.toUInt8 ≤ b ∧ b ≤ 'f'.toUInt8 then some ((b - 'a'.toUInt8).toUInt16 + 10)
  else if 'A'.toUInt8 ≤ b ∧ b ≤ 'F'.toUInt8 then some ((b - 'A'.toUInt8).toUInt16 + 10)
  else none

def escapeCode? (b : UInt8) : Option UInt16 :=
  if b = '"'.toUInt8 ∨ b = '\\'.toUInt8 ∨ b = '/'.toUInt8 then some b.toUInt16
  else if b = 'b'.toUInt8 then some 8
  else if b = 'f'.toUInt8 then some 12
  else if b = 'n'.toUInt8 then some 10
  else if b = 'r'.toUInt8 then some 13
  else if b = 't'.toUInt8 then some 9
  else none

def Scan.before (piece : Piece) (read : Option (List Piece × Bytes)) : Option (List Piece × Bytes) :=
  read.map fun (pieces, rest) => (piece :: pieces, rest)

def scanLiteral : Scan → Bytes → Option (List Piece × Bytes)
  | _, [] => none
  | .plain, b :: rest =>
      if b = '"'.toUInt8 then some ([], rest)
      else if b = '\\'.toUInt8 then scanLiteral .escape rest
      else if b < 0x20 then none
      else Scan.before (.byte b) (scanLiteral .plain rest)
  | .escape, b :: rest =>
      if b = 'u'.toUInt8 then scanLiteral (.digits 3 0) rest
      else
        match escapeCode? b with
        | some code => Scan.before (.unit code) (scanLiteral .plain rest)
        | none => none
  | .digits left code, b :: rest =>
      match hexValue? b with
      | none => none
      | some digit =>
          match left with
          | 0 => Scan.before (.unit (code * 16 + digit)) (scanLiteral .plain rest)
          | more + 1 => scanLiteral (.digits more (code * 16 + digit)) rest

def isHighSurrogate (code : UInt16) : Bool := 0xD800 ≤ code && code < 0xDC00

def isLowSurrogate (code : UInt16) : Bool := 0xDC00 ≤ code && code < 0xE000

def surrogatePair (high low : UInt16) : Char :=
  Char.ofNat (0x10000 + (high.toNat - 0xD800) * 0x400 + (low.toNat - 0xDC00))

def contents? : List Piece → Option Bytes
  | [] => some []
  | .byte b :: rest => (contents? rest).map (b :: ·)
  | .unit code :: rest =>
      if isHighSurrogate code then
        match rest with
        | .unit low :: after =>
            if isLowSurrogate low then (contents? after).map (String.utf8EncodeChar (surrogatePair code low) ++ ·)
            else none
        | _ => none
      else if isLowSurrogate code then none
      else (contents? rest).map (String.utf8EncodeChar (Char.ofNat code.toNat) ++ ·)

def literalText? (pieces : List Piece) : Option String := (contents? pieces).bind Bytes.text?

end Coherence.Json
