import Coherence.Numeral
import Coherence.Toml.Quotation
import Coherence.Toml.Value

set_option autoImplicit false

namespace Coherence.Toml

def moreDigits? (value? : Char → Option Nat) : List Char → Option (List Nat × List Char)
  | [] => some ([], [])
  | '_' :: c :: rest =>
      match value? c with
      | some d => (moreDigits? value? rest).map fun (ds, rest) => (d :: ds, rest)
      | none => none
  | c :: rest =>
      match value? c with
      | some d => (moreDigits? value? rest).map fun (ds, rest) => (d :: ds, rest)
      | none => if c = '_' then none else some ([], c :: rest)

def digits? (value? : Char → Option Nat) : List Char → Option (List Nat × List Char)
  | [] => none
  | c :: rest => do
      let d ← value? c
      let (ds, rest) ← moreDigits? value? rest
      some (d :: ds, rest)

def digitBelow? (base : Nat) (c : Char) : Option Nat :=
  match hexValue? c with
  | some d => if d < base then some d else none
  | none => none

def whole? : List Char → Option (List Nat × List Char)
  | '0' :: rest => some ([0], rest)
  | cs => digits? (digitBelow? 10) cs

def exponent? : List Char → Option (Int × List Char)
  | '-' :: rest => (digits? (digitBelow? 10) rest).map fun (ds, rest) => (-(Numeral.ofDigits ds : Int), rest)
  | '+' :: rest => (digits? (digitBelow? 10) rest).map fun (ds, rest) => ((Numeral.ofDigits ds : Int), rest)
  | cs => (digits? (digitBelow? 10) cs).map fun (ds, rest) => ((Numeral.ofDigits ds : Int), rest)

-- The end of a number with a point or an exponent. Below zero it may be out of range.
def real? (negative : Bool) (whole fraction : List Nat) (cs : List Char) : Option (List Char) := do
  let (exponent, rest) ← match cs with
    | 'e' :: rest => exponent? rest
    | 'E' :: rest => exponent? rest
    | _ => some (0, cs)
  let significand := Numeral.ofDigits (whole ++ fraction)
  if !negative && Numeral.overflowsDouble significand (exponent - fraction.length) then none else some rest

def decimal? (negative : Bool) (cs : List Char) : Option (List Char) := do
  let (whole, rest) ← whole? cs
  match rest with
  | '.' :: rest =>
      let (fraction, rest) ← digits? (digitBelow? 10) rest
      real? negative whole fraction rest
  | 'e' :: _ => real? negative whole [] rest
  | 'E' :: _ => real? negative whole [] rest
  | _ => if Numeral.ofDigits whole < Nat.pow 2 63 + (if negative then 1 else 0) then some rest else none

def based? (base : Nat) (cs : List Char) : Option (List Char) := do
  let (digits, rest) ← digits? (digitBelow? base) cs
  if digits.foldl (fun n d => base * n + d) 0 < Nat.pow 2 63 then some rest else none

def signed? (negative : Bool) : List Char → Option (List Char)
  | 'i' :: 'n' :: 'f' :: rest => some rest
  | 'n' :: 'a' :: 'n' :: rest => some rest
  | cs => decimal? negative cs

def number? : List Char → Option (List Char)
  | '+' :: rest => signed? false rest
  | '-' :: rest => signed? true rest
  | '0' :: 'x' :: rest => based? 16 rest
  | '0' :: 'o' :: rest => based? 8 rest
  | '0' :: 'b' :: rest => based? 2 rest
  | cs => signed? false cs

def field? (width low high : Nat) (cs : List Char) : Option (Nat × List Char) := do
  let digits ← (cs.take width).mapM (digitBelow? 10)
  let n := Numeral.ofDigits digits
  if digits.length = width ∧ low ≤ n ∧ n ≤ high then some (n, cs.drop width) else none

def char? (c : Char) : List Char → Option (List Char)
  | [] => none
  | head :: rest => if head = c then some rest else none

def daysInMonth (year month : Nat) : Nat :=
  if month = 2 then if year % 4 = 0 ∧ (year % 100 ≠ 0 ∨ year % 400 = 0) then 29 else 28
  else if month = 4 ∨ month = 6 ∨ month = 9 ∨ month = 11 then 30
  else 31

def date? (cs : List Char) : Option (List Char) := do
  let (year, rest) ← field? 4 0 9999 cs
  let rest ← char? '-' rest
  let (month, rest) ← field? 2 1 12 rest
  let rest ← char? '-' rest
  let (_, rest) ← field? 2 1 (daysInMonth year month) rest
  some rest

def time? (cs : List Char) : Option (List Char) := do
  let (_, rest) ← field? 2 0 23 cs
  let rest ← char? ':' rest
  let (_, rest) ← field? 2 0 59 rest
  let rest ← char? ':' rest
  let (_, rest) ← field? 2 0 60 rest
  match rest with
  | '.' :: c :: more => some (if c.isDigit then more.dropWhile Char.isDigit else rest)
  | _ => some rest

def offset? : List Char → Option (List Char)
  | [] => none
  | c :: rest =>
      if c = 'Z' ∨ c = 'z' then some rest
      else if c = '+' ∨ c = '-' then do
        let (_, rest) ← field? 2 0 23 rest
        let rest ← char? ':' rest
        let (_, rest) ← field? 2 0 59 rest
        some rest
      else none

def clock? : List Char → Option (List Char)
  | [] => none
  | c :: rest =>
      if c = 'T' ∨ c = 't' ∨ c = ' ' then (time? rest).map fun rest => (offset? rest).getD rest else none

def dateTime? (cs : List Char) : Option (List Char) :=
  match date? cs with
  | some rest => some ((clock? rest).getD rest)
  | none => time? cs

def scalar? (cs : List Char) : Option (Value × List Char) :=
  match anyString? cs, dateTime? cs, cs with
  | some (text, rest), _, _ => some (.text text, rest)
  | none, some rest, _ => some (.dateTime, rest)
  | none, none, 't' :: 'r' :: 'u' :: 'e' :: rest => some (.scalar, rest)
  | none, none, 'f' :: 'a' :: 'l' :: 's' :: 'e' :: rest => some (.scalar, rest)
  | none, none, _ => (number? cs).map fun rest => (.scalar, rest)

end Coherence.Toml
