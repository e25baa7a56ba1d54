import CecGateway.Json.Value
import CecGateway.Text.Decimal

/-!
# The texts of a JSON value

Which texts spell a value, by the grammar of JSON: every escape of a character, blanks wherever
they may stand, members in any order. Of equal keys in an object the last one counts. A number is
spelled as a decimal integer; there is no rule for one with a fraction or an exponent.
-/

namespace CecGateway.Json

def blanks : List Char := [' ', '\t', '\n', '\r']

/-! ## Strings -/

/-- The characters with an escape of two characters, each with the letter of its escape. -/
def shortEscapes : List (Char × Char) :=
  [('"', '"'), ('\\', '\\'), ('/', '/'), (Char.ofNat 8, 'b'), (Char.ofNat 12, 'f'), ('\n', 'n'),
    ('\r', 'r'), ('\t', 't')]

/-- Hexadecimal digits may be written in either case. -/
def IsHexDigit (n : Nat) (c : Char) : Prop :=
  "0123456789abcdef".toList[n]? = some c ∨ "0123456789ABCDEF".toList[n]? = some c

/-- A code unit of UTF-16 is written with four digits. -/
inductive SpellsUnit : Nat → List Char → Prop
  | mk {p q r s : Nat} {a b c d : Char} (ha : IsHexDigit p a) (hb : IsHexDigit q b)
      (hc : IsHexDigit r c) (hd : IsHexDigit s d) :
      SpellsUnit (0x1000 * p + 0x100 * q + 0x10 * r + s) [a, b, c, d]

inductive SpellsChar : Char → List Char → Prop
  | plain {c : Char} (hcontrol : 0x20 ≤ c.toNat) (hquote : c ≠ '"') (hbackslash : c ≠ '\\') :
      SpellsChar c [c]
  | short {c letter : Char} (hmem : (c, letter) ∈ shortEscapes) : SpellsChar c ['\\', letter]
  | unit {c : Char} {digits : List Char} (hunit : SpellsUnit c.toNat digits) :
      SpellsChar c ('\\' :: 'u' :: digits)
  /-- A character beyond the first plane is written as a high and a low surrogate. -/
  | surrogates {c : Char} {high low : Nat} {highDigits lowDigits : List Char}
      (hhigh : SpellsUnit (0xD800 + high) highDigits) (hlow : SpellsUnit (0xDC00 + low) lowDigits)
      (hlt : low < 0x400) (hchar : c.toNat = 0x10000 + (high * 0x400 + low)) :
      SpellsChar c ('\\' :: 'u' :: highDigits ++ '\\' :: 'u' :: lowDigits)

inductive SpellsText : List Char → List Char → Prop
  | nil : SpellsText [] []
  | cons {c : Char} {text w rest : List Char} (hchar : SpellsChar c w)
      (hrest : SpellsText text rest) : SpellsText (c :: text) (w ++ rest)

/-! ## Values -/

/-- Signed or not. -/
def Is64Bit (i : Int) : Prop := -0x8000000000000000 ≤ i ∧ i < 0x10000000000000000

mutual

/-- The text spells the value, with no more than `n` containers around any part of it. -/
inductive Spells : Nat → Json → List Char → Prop
  | null {n : Nat} : Spells n .null "null".toList
  | true {n : Nat} : Spells n (.bool true) "true".toList
  | false {n : Nat} : Spells n (.bool false) "false".toList
  | int {n : Nat} {i : Int} (hbits : Is64Bit i) : Spells n (.int i) (Decimal.intDigits i)
  | str {n : Nat} {s : String} {body : List Char} (hbody : SpellsText s.toList body) :
      Spells n (.str s) ('"' :: body ++ ['"'])
  | emptyArr {n : Nat} {inside : List Char} (hinside : inside ⊆ blanks) :
      Spells (n + 1) (.arr []) ('[' :: inside ++ [']'])
  | arr {n : Nat} {items : List Json} {w : List Char} (hitems : SpellsItems n items w) :
      Spells (n + 1) (.arr items) ('[' :: w ++ [']'])
  | emptyObj {n : Nat} {inside : List Char} (hinside : inside ⊆ blanks) :
      Spells (n + 1) (.obj []) ('\x7b' :: inside ++ ['\x7d'])
  | obj {n : Nat} {members : List (String × Json)} {w : List Char}
      (hmembers : SpellsMembers n members w) :
      Spells (n + 1) (ofMembers members) ('\x7b' :: w ++ ['\x7d'])
  | blankBefore {n : Nat} {v : Json} {b : Char} {w : List Char} (hb : b ∈ blanks)
      (hw : Spells n v w) : Spells n v (b :: w)
  | blankAfter {n : Nat} {v : Json} {b : Char} {w : List Char} (hb : b ∈ blanks)
      (hw : Spells n v w) : Spells n v (w ++ [b])

inductive SpellsItems : Nat → List Json → List Char → Prop
  | last {n : Nat} {v : Json} {w : List Char} (hw : Spells n v w) : SpellsItems n [v] w
  | cons {n : Nat} {v : Json} {items : List Json} {w rest : List Char} (hw : Spells n v w)
      (hrest : SpellsItems n items rest) : SpellsItems n (v :: items) (w ++ ',' :: rest)

inductive SpellsMembers : Nat → List (String × Json) → List Char → Prop
  | last {n : Nat} {key : String} {v : Json} {k w : List Char} (hk : Spells n (.str key) k)
      (hw : Spells n v w) : SpellsMembers n [(key, v)] (k ++ ':' :: w)
  | cons {n : Nat} {key : String} {v : Json} {members : List (String × Json)}
      {k w rest : List Char} (hk : Spells n (.str key) k) (hw : Spells n v w)
      (hrest : SpellsMembers n members rest) :
      SpellsMembers n ((key, v) :: members) (k ++ ':' :: w ++ ',' :: rest)

end

end CecGateway.Json
