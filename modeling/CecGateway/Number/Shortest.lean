import CecGateway.Number.Binary64
import CecGateway.Text.Decimal

/-!
# Shortest decimals

The shortest decimal that reads back as a given binary64 number, and its text: positional from
`1e-5` up to `1e16`, with an exponent outside.
-/

namespace CecGateway

/-- The decimal `digits * 10 ^ power`. -/
structure Shortest where
  digits : Nat
  power : Int
  deriving DecidableEq, Repr

namespace Binary64

/-- Compares `num / den` with `digits * 10 ^ power`. -/
def compareDecimal (num den digits : Nat) (power : Int) : Ordering :=
  if 0 ≤ power then compare num (digits * Nat.pow 10 power.toNat * den)
  else compare (num * Nat.pow 10 (-power).toNat) (digits * den)

/-- The decimal exponent of a positive fraction: the largest power of ten not above it. -/
def decimalExponent (num den : Nat) : Int :=
  let bits : Int := (Nat.log2 num : Int) - Nat.log2 den
  let guess := bits * 30103 / 100000 - 1
  let step (p : Int) : Int := if compareDecimal num den 1 (p + 1) = .lt then p else p + 1
  step (step (step guess))

/-- The two ends of the interval of reals that round to a positive number, over one denominator. -/
def interval (x : Binary64) : Nat × Nat × Nat :=
  let isLowest := x.significand = Nat.pow 2 (significandBits - 1) ∧ minExponent < x.exponent
  let low := 4 * x.significand - (if isLowest then 1 else 2)
  let high := 4 * x.significand + 2
  if 0 ≤ x.exponent then (low * Nat.pow 2 x.exponent.toNat, high * Nat.pow 2 x.exponent.toNat, 4)
  else (low, high, 4 * Nat.pow 2 (-x.exponent).toNat)

/-- Whether a decimal reads back as the number; the ends of the interval do so for an even
significand. -/
def readsBack (x : Binary64) (candidate : Shortest) : Bool :=
  let (low, high, den) := x.interval
  let atLow := compareDecimal low den candidate.digits candidate.power
  let atHigh := compareDecimal high den candidate.digits candidate.power
  if x.significand % 2 = 0 then atLow != .gt && atHigh != .lt
  else atLow == .lt && atHigh == .gt

/-- The neighbours of a positive number among the decimals with `count` digits, the nearer one
first, of two equally near ones the even one. -/
def neighbours (x : Binary64) (count : Nat) : List Shortest :=
  let (num, den) := x.fraction
  let power := decimalExponent num den - count + 1
  let (n, d) :=
    if 0 ≤ power then (num, den * Nat.pow 10 power.toNat)
    else (num * Nat.pow 10 (-power).toNat, den)
  let below : Shortest := ⟨n / d, power⟩
  let above : Shortest := ⟨n / d + 1, power⟩
  let r := 2 * (n % d)
  if r < d || (r == d && n / d % 2 == 0) then [below, above] else [above, below]

/-- The shortest decimal that reads back as a positive number; seventeen digits always do. -/
def shortest (x : Binary64) : Shortest :=
  let counts := (List.range 17).map (· + 1)
  let found := counts.findSome? fun count => (x.neighbours count).find? x.readsBack
  found.getD ⟨x.significand, 0⟩

end Binary64

/-- Moves trailing zeros of the digits into the power. -/
def Shortest.normalize (d : Shortest) : Shortest :=
  let zeros := (Decimal.digits d.digits).reverse.takeWhile (· = '0') |>.length
  if d.digits = 0 then d else ⟨d.digits / Nat.pow 10 zeros, d.power + zeros⟩

/-- Positional with at least one decimal place, or with one digit before the point and a signed
exponent. -/
def Shortest.text (d : Shortest) : List Char :=
  let ds := Decimal.digits d.digits
  let lead : Int := ds.length + d.power
  if 0 ≤ d.power && lead ≤ 16 then ds ++ List.replicate d.power.toNat '0' ++ ['.', '0']
  else if 0 < lead && lead ≤ 16 then ds.take lead.toNat ++ '.' :: ds.drop lead.toNat
  else if -5 < lead && lead ≤ 0 then '0' :: '.' :: List.replicate (-lead).toNat '0' ++ ds
  else
    let exponent := lead - 1
    let sign := if exponent < 0 then '-' else '+'
    ds.take 1 ++ (if ds.length = 1 then [] else '.' :: ds.drop 1) ++
      'e' :: sign :: Decimal.digits exponent.natAbs

def Binary64.text (x : Binary64) : List Char :=
  let magnitude := if x.isZero then ['0', '.', '0'] else x.shortest.normalize.text
  if x.negative then '-' :: magnitude else magnitude

end CecGateway
