set_option autoImplicit false

namespace Coherence.Numeral

def ofDigits (digits : List Nat) : Nat := digits.foldl (fun n d => 10 * n + d) 0

def roundToDouble (n : Nat) : Nat :=
  if n < Nat.pow 2 53 then n
  else
    let shift := n.log2 - 52
    let kept := n >>> shift
    let lost := n % Nat.pow 2 shift
    let half := Nat.pow 2 (shift - 1)
    let up := half < lost || (lost == half && kept % 2 == 1)
    (if up then kept + 1 else kept) <<< shift

def doubleLimit : Nat := Nat.pow 2 1024

def doubleOverflow : Nat := Nat.pow 2 1024 - Nat.pow 2 970

-- Ten to the 309th is infinite as a double, and a number without that many digits before its point is not.
def overflowsDouble (significand : Nat) (exponent : Int) : Bool :=
  if significand = 0 then false
  else if exponent < 0 then
    let places := exponent.natAbs
    if (Nat.toDigits 10 significand).length < places + 308 then false
    else doubleOverflow * Nat.pow 10 places ≤ significand
  else if 308 < exponent then true
  else doubleOverflow ≤ significand * Nat.pow 10 exponent.toNat

end Coherence.Numeral
