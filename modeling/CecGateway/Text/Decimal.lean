/-!
# Decimal texts

Numbers as decimal digits, and reading natural numbers back below a bound.
-/

namespace CecGateway.Decimal

def digits (n : Nat) : List Char := Nat.toDigits 10 n

def render (n : Nat) : String := String.ofList (digits n)

def intDigits (n : Int) : List Char := if n < 0 then '-' :: digits n.natAbs else digits n.natAbs

def renderInt (n : Int) : String := String.ofList (intDigits n)

def isDigit (c : Char) : Bool := '0' ≤ c && c ≤ '9'

def digitValue (c : Char) : Nat := c.toNat - '0'.toNat

def valueOf (text : List Char) : Nat := text.foldl (fun n c => 10 * n + digitValue c) 0

/-- Reads one or more digits, after an optional plus sign, as a number below `bound`. -/
def readBelow? (bound : Nat) (text : List Char) : Option Nat :=
  let body := match text with
    | '+' :: rest => rest
    | _ => text
  if body.isEmpty || !body.all isDigit then none
  else if valueOf body < bound then some (valueOf body) else none

/-- Digits with an optional sign, point and exponent; a digit stands before or after the point. -/
def isFloat (text : List Char) : Bool :=
  let isNumber (text : List Char) : Bool := !text.isEmpty && text.all isDigit
  let unsigned (text : List Char) : List Char :=
    match text with
    | '+' :: rest | '-' :: rest => rest
    | _ => text
  let body := unsigned text
  let mantissa := body.takeWhile fun c => c ≠ 'e' && c ≠ 'E'
  let whole := mantissa.takeWhile isDigit
  let places := (mantissa.drop whole.length).drop 1
  let hasPoint := whole.length < mantissa.length
  (!hasPoint || mantissa[whole.length]? = some '.') && places.all isDigit &&
    !(whole.isEmpty && places.isEmpty) &&
    match body.drop mantissa.length with
    | [] => true
    | _ :: exponent => isNumber (unsigned exponent)

end CecGateway.Decimal
