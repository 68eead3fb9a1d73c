import Coherence.Numeral
import Coherence.Text.Bytes

set_option autoImplicit false

namespace Coherence.Json

def isDigit (b : UInt8) : Bool := '0'.toUInt8 ≤ b && b ≤ '9'.toUInt8

def digitValue (b : UInt8) : Nat := (b - '0'.toUInt8).toNat

structure Number where
  whole : List Nat
  fraction : List Nat
  exponent : Int

namespace Number

def whole? (bytes : Bytes) : Option (List Nat × Bytes) :=
  match bytes.takeWhile isDigit with
  | [] => none
  | first :: more =>
      if first = '0'.toUInt8 ∧ more ≠ [] then none
      else some ((first :: more).map digitValue, bytes.dropWhile isDigit)

def digits? (bytes : Bytes) : Option (List Nat × Bytes) :=
  match bytes.takeWhile isDigit with
  | [] => none
  | digits => some (digits.map digitValue, bytes.dropWhile isDigit)

def fraction? : Bytes → Option (List Nat × Bytes)
  | [] => some ([], [])
  | b :: rest => if b = '.'.toUInt8 then digits? rest else some ([], b :: rest)

def exponent? : Bytes → Option (Int × Bytes)
  | [] => some (0, [])
  | b :: rest =>
      if b = 'e'.toUInt8 ∨ b = 'E'.toUInt8 then
        match rest with
        | [] => none
        | sign :: after =>
            if sign = '-'.toUInt8 then (digits? after).map fun (ds, r) => (-(Numeral.ofDigits ds : Int), r)
            else
              let unsigned := if sign = '+'.toUInt8 then after else rest
              (digits? unsigned).map fun (ds, r) => ((Numeral.ofDigits ds : Int), r)
      else some (0, b :: rest)

def scan (bytes : Bytes) : Option (Number × Bytes) := do
  let unsigned := match bytes with
    | b :: rest => if b = '-'.toUInt8 then rest else bytes
    | [] => bytes
  let (whole, rest) ← whole? unsigned
  let (fraction, rest) ← fraction? rest
  let (exponent, rest) ← exponent? rest
  some (⟨whole, fraction, exponent⟩, rest)

def fits (significand digit : Nat) : Bool := significand * 10 + digit < UInt64.size

-- Take digits before the point: once one does not fit, the rest only count for the exponent.
def takeWhole (significand : Nat) : List Nat → Nat × Nat
  | [] => (significand, 0)
  | d :: ds => if fits significand d then takeWhole (significand * 10 + d) ds else (significand, (d :: ds).length)

-- Take digits after the point: once one does not fit, the rest are dropped.
def takeFraction (significand : Nat) : List Nat → Nat × Nat
  | [] => (significand, 0)
  | d :: ds =>
      if fits significand d then
        let (held, places) := takeFraction (significand * 10 + d) ds
        (held, places + 1)
      else (significand, 0)

-- The significand and the power of ten are each rounded before their product is.
def isFinite (n : Number) : Bool :=
  let (held, dropped) := takeWhole 0 n.whole
  let (held, places) := takeFraction held n.fraction
  let power := (dropped : Int) - places + n.exponent
  if held = 0 ∨ power < 0 then true
  else if 308 < power then false
  else
    Numeral.roundToDouble (Numeral.roundToDouble held * Numeral.roundToDouble (Nat.pow 10 power.toNat)) < Numeral.doubleLimit

end Number

end Coherence.Json
