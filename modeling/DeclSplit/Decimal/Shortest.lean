import DeclSplit.Decimal.Binary64
import DeclSplit.Text.Basic

/-!
The shortest decimal numeral that stands for a number of double precision, and of those the one closest to it.
-/

namespace DeclSplit

structure Numeral where
  digits : Nat
  exponent : Int
deriving DecidableEq, Repr

namespace Binary64

def neighbourhood (x : Binary64) : Nat × Nat :=
  let below := if x.significand = fullSignificand && leastExponent < x.exponent then 1 else 2
  (4 * x.significand - below, 4 * x.significand + 2)

def isDenotedBy (x : Binary64) (numeral : Numeral) : Bool :=
  let (low, high) := x.neighbourhood
  let (n, d) := fraction numeral.digits 10 numeral.exponent
  let (p, q) := fraction 1 2 (x.exponent - 2)
  let place := n * q
  let lowest := low * p * d
  let highest := high * p * d
  if x.significand % 2 = 0 then lowest ≤ place && place ≤ highest else lowest < place && place < highest

def neighbours (x : Binary64) (exponent : Int) : List Numeral :=
  let (p, q) := fraction x.significand 2 x.exponent
  let (n, d) := fraction 1 10 exponent
  let low := p * d / (q * n)
  let rest := p * d % (q * n)
  if 2 * rest < q * n then [⟨low, exponent⟩, ⟨low + 1, exponent⟩] else [⟨low + 1, exponent⟩, ⟨low, exponent⟩]

def decimalExponent (x : Binary64) : Nat → Int → Int
  | 0, e => e
  | fuel + 1, e =>
    let (p, q) := fraction x.significand 2 x.exponent
    let (n, d) := fraction 1 10 e
    if n * q ≤ p * d then e else decimalExponent x fuel (e - 1)

def shortestFrom (x : Binary64) : Nat → Int → Numeral
  | 0, e => ⟨0, e⟩
  | fuel + 1, e =>
    match (x.neighbours e).find? x.isDenotedBy with
    | some numeral => numeral
    | none => shortestFrom x fuel (e - 1)

def shortest (x : Binary64) : Numeral :=
  if x.significand = 0 then ⟨0, 0⟩ else x.shortestFrom 18 (x.decimalExponent 640 310)

end Binary64

namespace Numeral

def positional (x : Numeral) : Text :=
  let digits := Text.ofNat x.digits
  if 0 ≤ x.exponent then digits ++ List.replicate x.exponent.toNat '0' ++ ".0"
  else
    let places := (-x.exponent).toNat
    let padded := List.replicate (places + 1 - digits.length) '0' ++ digits
    padded.take (padded.length - places) ++ '.' :: padded.drop (padded.length - places)

end Numeral

end DeclSplit
