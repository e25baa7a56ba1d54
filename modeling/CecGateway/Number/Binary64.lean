/-!
# Finite binary64 numbers

A finite number of the 64-bit binary format as sign, significand and exponent, with every operation
computed exactly and rounded once to the nearest number, ties to the even significand.
-/

namespace CecGateway

/-- The number `± significand * 2 ^ exponent`; zeros and subnormal numbers have exponent `-1074`. -/
structure Binary64 where
  negative : Bool
  significand : Nat
  exponent : Int
  deriving DecidableEq, Repr

namespace Binary64

def minExponent : Int := -1074

def maxExponent : Int := 971

def significandBits : Nat := 53

def zero : Binary64 := ⟨false, 0, minExponent⟩

def neg (x : Binary64) : Binary64 := { x with negative := !x.negative }

def isZero (x : Binary64) : Bool := x.significand == 0

/-- The quotient of two naturals, rounded to the nearest natural, ties to the even one. -/
def divNearest (num den : Nat) : Nat :=
  let q := num / den
  let r := num % den
  if 2 * r < den then q
  else if den < 2 * r then q + 1
  else q + q % 2

/-- `num / den` scaled by `2 ^ -e`, as a fraction. -/
def scaled (num den : Nat) (e : Int) : Nat × Nat :=
  if 0 ≤ e then (num, den * Nat.pow 2 e.toNat) else (num * Nat.pow 2 (-e).toNat, den)

/-- The least exponent at which the integer part of a positive fraction fits the significand. -/
def exponentOf (num den : Nat) : Int :=
  let guess : Int := (Nat.log2 num : Int) - Nat.log2 den - significandBits
  let (n, d) := scaled num den guess
  max minExponent (if n / d < Nat.pow 2 significandBits then guess else guess + 1)

/-- The number nearest to a fraction, or `none` past the largest finite number. -/
def ofFraction? (num den : Nat) : Option Binary64 :=
  if num = 0 then some zero
  else
    let e := exponentOf num den
    let (n, d) := scaled num den e
    let q := divNearest n d
    let (m, e) :=
      if q = Nat.pow 2 significandBits then (Nat.pow 2 (significandBits - 1), e + 1) else (q, e)
    if maxExponent < e then none else some ⟨false, m, e⟩

def fraction (x : Binary64) : Nat × Nat :=
  if 0 ≤ x.exponent then (x.significand * Nat.pow 2 x.exponent.toNat, 1)
  else (x.significand, Nat.pow 2 (-x.exponent).toNat)

def ofNat? (n : Nat) : Option Binary64 := ofFraction? n 1

def mulAbs? (x y : Binary64) : Option Binary64 :=
  let (a, b) := x.fraction
  let (c, d) := y.fraction
  ofFraction? (a * c) (b * d)

def divAbs? (x y : Binary64) : Option Binary64 :=
  let (a, b) := x.fraction
  let (c, d) := y.fraction
  ofFraction? (a * d) (b * c)

def maxPower : Nat := 308

/-- Divides by `10 ^ power`, in steps of the largest finite power of ten. -/
def divPower? (x : Binary64) (power : Nat) : Nat → Option Binary64
  | 0 => do divAbs? x (← ofNat? (Nat.pow 10 power))
  | steps + 1 => do
    let y ← divAbs? x (← ofNat? (Nat.pow 10 maxPower))
    divPower? y power steps

/-- Scales a natural number by a power of ten. The number and the power are rounded first and then
their product or quotient; `none` when the result is too large. -/
def scale? (significand : Nat) (power : Int) : Option Binary64 := do
  let x ← ofNat? significand
  if 0 ≤ power then
    if x.isZero then return x
    if maxPower < power.toNat then none else mulAbs? x (← ofNat? (Nat.pow 10 power.toNat))
  else
    let steps := ((-power).toNat - 1) / maxPower
    -- three steps take every significand of 64 bits to zero
    divPower? x ((-power).toNat - maxPower * steps) (min steps 3)

end Binary64

end CecGateway
