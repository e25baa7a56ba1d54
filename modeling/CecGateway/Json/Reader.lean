import CecGateway.Json.Value
import CecGateway.Text.Decimal
import CecGateway.Text.Utf8

/-!
# Reading JSON

A value is read from decoded bytes and kept, or only skipped. A kept value has a bounded nesting,
strings of whole characters and numbers in range. A skipped value is held to the grammar alone, so
that what is not understood is not judged either.
-/

namespace CecGateway.Json

open Utf8 (Piece)

abbrev Input := List Piece

def isSpace (c : Char) : Bool := c = ' ' || c = '\t' || c = '\n' || c = '\r'

def skipSpace : Input → Input
  | .char c :: rest => if isSpace c then skipSpace rest else .char c :: rest
  | input => input

def literal : List Char → Input → Option Input
  | [], input => some input
  | c :: cs, .char d :: rest => if d = c then literal cs rest else none
  | _ :: _, _ => none

/-- The next character after blanks, if it is `c`. -/
def token (c : Char) (input : Input) : Option Input := literal [c] (skipSpace input)

/-! ## Strings -/

def hexValue? (c : Char) : Option Nat :=
  if '0' ≤ c && c ≤ '9' then some (c.toNat - '0'.toNat)
  else if 'a' ≤ c && c ≤ 'f' then some (c.toNat - 'a'.toNat + 10)
  else if 'A' ≤ c && c ≤ 'F' then some (c.toNat - 'A'.toNat + 10)
  else none

def hex4 : Input → Option (Nat × Input)
  | .char a :: .char b :: .char c :: .char d :: rest => do
    let high := 0x1000 * (← hexValue? a) + 0x100 * (← hexValue? b)
    return (high + 0x10 * (← hexValue? c) + (← hexValue? d), rest)
  | _ => none

def simpleEscape? (c : Char) : Option Char :=
  if c = '"' || c = '\\' || c = '/' then some c
  else if c = 'b' then some (Char.ofNat 8)
  else if c = 'f' then some (Char.ofNat 12)
  else if c = 'n' then some '\n'
  else if c = 'r' then some '\r'
  else if c = 't' then some '\t'
  else none

def isHighSurrogate (n : Nat) : Bool := 0xD800 ≤ n && n ≤ 0xDBFF

def isLowSurrogate (n : Nat) : Bool := 0xDC00 ≤ n && n ≤ 0xDFFF

/-- The character of a `\u` escape, whose second half follows when the first is a high surrogate. -/
def unicodeEscape (input : Input) : Option (Char × Input) := do
  let (n, rest) ← hex4 input
  if isLowSurrogate n then none
  else if isHighSurrogate n then
    let (m, rest) ← hex4 (← literal ['\\', 'u'] rest)
    if isLowSurrogate m then
      return (Char.ofNat (0x10000 + (n - 0xD800) * 0x400 + (m - 0xDC00)), rest)
    else none
  else return (Char.ofNat n, rest)

def stringBody : Nat → Input → Option (List Char × Input)
  | 0, _ => none
  | fuel + 1, .char c :: rest =>
    if c = '"' then some ([], rest)
    else if c = '\\' then
      match rest with
      | .char 'u' :: rest => do
        let (d, rest) ← unicodeEscape rest
        let (text, rest) ← stringBody fuel rest
        return (d :: text, rest)
      | .char e :: rest => do
        let d ← simpleEscape? e
        let (text, rest) ← stringBody fuel rest
        return (d :: text, rest)
      | _ => none
    else if c.toNat < 0x20 then none
    else do
      let (text, rest) ← stringBody fuel rest
      return (c :: text, rest)
  | _ + 1, _ => none

def string (input : Input) : Option (String × Input) := do
  let (text, rest) ← stringBody input.length (← token '"' input)
  return (String.ofList text, rest)

/-! ## Numbers -/

def maxSignificand : Nat := UInt64.size

def takeDigits : Input → List Char × Input
  | .char c :: rest =>
    if Decimal.isDigit c then
      let (ds, rest) := takeDigits rest
      (c :: ds, rest)
    else ([], .char c :: rest)
  | input => ([], input)

/-- Appends digits to a significand as long as it stays below 64 bits, and counts those taken. -/
def absorb (significand : Nat) : List Char → Nat × Nat
  | [] => (significand, 0)
  | d :: ds =>
    let next := 10 * significand + Decimal.digitValue d
    if next < maxSignificand then
      let (m, count) := absorb next ds
      (m, count + 1)
    else (significand, 0)

structure Numeral where
  negative : Bool
  whole : List Char
  fraction : Option (List Char)
  /-- Sign and digits of the exponent. -/
  exponent : Option (Bool × List Char)
  deriving DecidableEq, Repr

def numeralFraction : Input → Option (Option (List Char) × Input)
  | .char '.' :: rest =>
    match takeDigits rest with
    | ([], _) => none
    | (ds, rest) => some (some ds, rest)
  | input => some (none, input)

def numeralExponent : Input → Option (Option (Bool × List Char) × Input)
  | .char c :: rest =>
    if c = 'e' || c = 'E' then
      let (negative, digits) := match rest with
        | .char '-' :: rest => (true, rest)
        | .char '+' :: rest => (false, rest)
        | _ => (false, rest)
      match takeDigits digits with
      | ([], _) => none
      | (ds, rest) => some (some (negative, ds), rest)
    else some (none, .char c :: rest)
  | input => some (none, input)

/-- A number's text: an optional minus sign, a whole part without superfluous zeros, and optionally
a fraction and an exponent. -/
def numeral (input : Input) : Option (Numeral × Input) :=
  let (negative, input) := match input with
    | .char '-' :: rest => (true, rest)
    | _ => (false, input)
  match takeDigits input with
  | ([], _) => none
  | (d :: ds, rest) =>
    if d = '0' && !ds.isEmpty then none
    else do
      let (fraction, rest) ← numeralFraction rest
      let (exponent, rest) ← numeralExponent rest
      return (⟨negative, d :: ds, fraction, exponent⟩, rest)

def maxExponentValue : Nat := UInt32.size / 2

/-- The binary64 value of a numeral: the digits beyond 64 bits of significand only count in the
whole part, as powers of ten. -/
def Numeral.real? (n : Numeral) : Option Binary64 := do
  let (m, wholeCount) := absorb 0 n.whole
  let (m, fractionCount) := match n.fraction with
    | some ds => absorb m ds
    | none => (m, 0)
  let power : Int := (n.whole.length - wholeCount : Nat) - (fractionCount : Int)
  let magnitude ← match n.exponent with
    | none => Binary64.scale? m power
    | some (negative, ds) =>
      let e := Decimal.valueOf ds
      if maxExponentValue ≤ e then
        if m ≠ 0 && !negative then none else some Binary64.zero
      else Binary64.scale? m (if negative then power - e else power + e)
  return if n.negative then magnitude.neg else magnitude

/-- An integer of 64 bits, signed or not, is kept as such; `-0` and all else become binary64. -/
def Numeral.value? (n : Numeral) : Option Json :=
  let whole := Decimal.valueOf n.whole
  if n.fraction.isNone && n.exponent.isNone &&
      (if n.negative then 0 < whole && whole ≤ UInt64.size / 2 else whole < UInt64.size) then
    some (.int (if n.negative then -(whole : Int) else whole))
  else n.real?.map .real

/-! ## Kept values -/

mutual

/-- A value whose containers may nest one level less than `depth`. -/
def value (depth : Nat) : Nat → Input → Option (Json × Input)
  | 0, _ => none
  | fuel + 1, input =>
    match skipSpace input with
    | .char 'n' :: rest => do return (.null, ← literal ['u', 'l', 'l'] rest)
    | .char 't' :: rest => do return (.bool true, ← literal ['r', 'u', 'e'] rest)
    | .char 'f' :: rest => do return (.bool false, ← literal ['a', 'l', 's', 'e'] rest)
    | .char '"' :: rest => do
      let (s, rest) ← string (.char '"' :: rest)
      return (.str s, rest)
    | .char '[' :: rest =>
      if depth ≤ 1 then none
      else match token ']' rest with
        | some rest => some (.arr [], rest)
        | none => do
          let (vs, rest) ← items (depth - 1) fuel rest
          return (.arr vs, rest)
    | .char '\x7b' :: rest =>
      if depth ≤ 1 then none
      else match token '\x7d' rest with
        | some rest => some (ofMembers [], rest)
        | none => do
          let (ms, rest) ← members (depth - 1) fuel rest
          return (ofMembers ms, rest)
    | input => do
      let (n, rest) ← numeral input
      return (← n.value?, rest)

def items (depth : Nat) : Nat → Input → Option (List Json × Input)
  | 0, _ => none
  | fuel + 1, input => do
    let (v, rest) ← value depth fuel input
    match token ',' rest with
    | some rest => do
      let (vs, rest) ← items depth fuel rest
      return (v :: vs, rest)
    | none => do return ([v], ← token ']' rest)

def members (depth : Nat) : Nat → Input → Option (List (String × Json) × Input)
  | 0, _ => none
  | fuel + 1, input => do
    let (key, rest) ← string input
    let (v, rest) ← value depth fuel (← token ':' rest)
    match token ',' rest with
    | some rest => do
      let (ms, rest) ← members depth fuel rest
      return ((key, v) :: ms, rest)
    | none => do return ([(key, v)], ← token '\x7d' rest)

end

/-- A document may nest this deep, less one. -/
def maxDepth : Nat := 128

/-- Enough fuel for every value in the input: each call reads a character or descends one level. -/
def fuelFor (input : Input) : Nat := 2 * input.length + 2

/-- Reads a document: one value and blanks around it. -/
def parse? (bytes : List UInt8) : Option Json := do
  let input := Utf8.decode bytes
  let (v, rest) ← value maxDepth (fuelFor input) input
  if (skipSpace rest).isEmpty then return v else none

/-! ## Skipped values -/

/-- The rest of a skipped string after its opening quote: escapes are well formed and no control
character stands in it. -/
def skipString : Nat → Input → Option Input
  | 0, _ => none
  | fuel + 1, .char c :: rest =>
    if c = '"' then some rest
    else if c = '\\' then
      match rest with
      | .char 'u' :: rest => do skipString fuel (← hex4 rest).2
      | .char e :: rest => do
        let _ ← simpleEscape? e
        skipString fuel rest
      | _ => none
    else if c.toNat < 0x20 then none
    else skipString fuel rest
  | fuel + 1, .junk _ :: rest => skipString fuel rest
  | _ + 1, [] => none

inductive Frame
  | array
  | object
  deriving DecidableEq, Repr

def skipKey (input : Input) : Option Input := do
  let rest ← skipString input.length (← token '"' input)
  token ':' rest

mutual

/-- Skips a value, and then what is left of the containers around it. -/
def skipValue : Nat → List Frame → Input → Option Input
  | 0, _, _ => none
  | fuel + 1, frames, input =>
    match skipSpace input with
    | .char 'n' :: rest => do skipAfter fuel frames (← literal ['u', 'l', 'l'] rest)
    | .char 't' :: rest => do skipAfter fuel frames (← literal ['r', 'u', 'e'] rest)
    | .char 'f' :: rest => do skipAfter fuel frames (← literal ['a', 'l', 's', 'e'] rest)
    | .char '"' :: rest => do skipAfter fuel frames (← skipString (rest.length + 1) rest)
    | .char '[' :: rest =>
      match token ']' rest with
      | some rest => skipAfter fuel frames rest
      | none => skipValue fuel (.array :: frames) rest
    | .char '\x7b' :: rest =>
      match token '\x7d' rest with
      | some rest => skipAfter fuel frames rest
      | none => do skipValue fuel (.object :: frames) (← skipKey rest)
    | input => do skipAfter fuel frames (← numeral input).2

def skipAfter : Nat → List Frame → Input → Option Input
  | _, [], input => some input
  | 0, _ :: _, _ => none
  | fuel + 1, .array :: frames, input =>
    match token ',' input with
    | some rest => skipValue fuel (.array :: frames) rest
    | none => do skipAfter fuel frames (← token ']' input)
  | fuel + 1, .object :: frames, input =>
    match token ',' input with
    | some rest => do skipValue fuel (.object :: frames) (← skipKey rest)
    | none => do skipAfter fuel frames (← token '\x7d' input)

end

def skip (input : Input) : Option Input := skipValue (fuelFor input) [] input

end CecGateway.Json
