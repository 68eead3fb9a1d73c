set_option autoImplicit false

namespace Coherence

structure Duration where
  nanos : Nat
deriving DecidableEq

namespace Duration

def ofMillis (millis : Nat) : Duration := ⟨millis * 1000000⟩

def fractionDigits (width fraction : Nat) : List Char :=
  let digits := Nat.toDigits 10 fraction
  let padded := List.replicate (width - digits.length) '0' ++ digits
  (padded.reverse.dropWhile (· = '0')).reverse

def inUnit (nanos width : Nat) (unit : String) : String :=
  let whole := toString (nanos / Nat.pow 10 width)
  match fractionDigits width (nanos % Nat.pow 10 width) with
  | [] => whole ++ unit
  | digits => whole ++ "." ++ String.ofList digits ++ unit

def text (d : Duration) : String :=
  if Nat.pow 10 9 ≤ d.nanos then inUnit d.nanos 9 "s"
  else if Nat.pow 10 6 ≤ d.nanos then inUnit d.nanos 6 "ms"
  else if Nat.pow 10 3 ≤ d.nanos then inUnit d.nanos 3 "µs"
  else inUnit d.nanos 0 "ns"

end Duration

end Coherence
