/-!
Numbers of double precision: those of the form `m * 2 ^ q` with `m` below `2 ^ 53` and `q` at least `-1074`.
A decimal numeral stands for the nearest of them.
-/

namespace DeclSplit

structure Binary64 where
  significand : Nat
  exponent : Int
deriving DecidableEq, Repr

namespace Binary64

def leastExponent : Int := -1074

def limitExponent : Int := 1024

def fullSignificand : Nat := Nat.pow 2 52

def zero : Binary64 := ⟨0, leastExponent⟩

def fraction (factor base : Nat) (exponent : Int) : Nat × Nat :=
  (factor * base.pow exponent.toNat, base.pow (-exponent).toNat)

def nearest (numerator denominator : Nat) : Nat :=
  let quotient := numerator / denominator
  let rest := 2 * (numerator % denominator)
  if rest < denominator || (rest = denominator && quotient % 2 = 0) then quotient else quotient + 1

def exponentOf (numerator denominator : Nat) : Int :=
  let guess : Int := (numerator.log2 : Int) - (denominator.log2 : Int) - 52
  -- The guess is at most one too high.
  let (n, d) := fraction numerator 2 (-guess)
  let exact := if n < fullSignificand * (d * denominator) then guess - 1 else guess
  max exact leastExponent

def ofFraction? (numerator denominator : Nat) : Option Binary64 :=
  if numerator = 0 then some zero else
  let exponent := exponentOf numerator denominator
  let (n, d) := fraction numerator 2 (-exponent)
  let significand := nearest n (d * denominator)
  let whole : Binary64 :=
    if significand = 2 * fullSignificand then ⟨fullSignificand, exponent + 1⟩ else ⟨significand, exponent⟩
  if limitExponent < whole.exponent + 53 && fullSignificand ≤ whole.significand then none else some whole

def digitCount (n : Nat) : Nat := (Nat.toDigits 10 n).length

/-- The nearest magnitude to `digits * 10 ^ exponent`, unless it is out of reach.  The first two cases spare
the work on numerals far out of range. -/
def ofDecimal? (digits : Nat) (exponent : Int) : Option Binary64 :=
  let magnitude := exponent + digitCount digits
  if digits = 0 || magnitude < -400 then some zero
  else if 400 < magnitude then none
  else
    let (numerator, denominator) := fraction digits 10 exponent
    ofFraction? numerator denominator

end Binary64

end DeclSplit
