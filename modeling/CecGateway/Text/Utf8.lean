/-!
# UTF-8

Bytes are decoded once, into characters and the junk between them. Junk is cut into maximal parts
of a sequence that no character completes, so that a lenient reader replaces each part by one
replacement character, and a strict reader refuses it.
-/

namespace CecGateway.Utf8

inductive Piece
  | char (c : Char)
  | junk (bytes : List UInt8)
  deriving DecidableEq, Repr

def encodeChar (c : Char) : List UInt8 :=
  let n := c.toNat
  if n < 0x80 then [n.toUInt8]
  else if n < 0x800 then [(0xC0 + n / 0x40).toUInt8, (0x80 + n % 0x40).toUInt8]
  else if n < 0x10000 then
    [(0xE0 + n / 0x1000).toUInt8, (0x80 + n / 0x40 % 0x40).toUInt8, (0x80 + n % 0x40).toUInt8]
  else
    [(0xF0 + n / 0x40000).toUInt8, (0x80 + n / 0x1000 % 0x40).toUInt8,
      (0x80 + n / 0x40 % 0x40).toUInt8, (0x80 + n % 0x40).toUInt8]

def encode (text : List Char) : List UInt8 := text.flatMap encodeChar

def bytes (text : String) : List UInt8 := encode text.toList

def isContinuation (b : UInt8) : Bool := 0x80 ≤ b && b ≤ 0xBF

/-- Which second bytes a leading byte of three or four bytes admits: neither an overlong form nor a
surrogate nor a value past the last character. -/
def admitsSecond (lead second : UInt8) : Bool :=
  if lead = 0xE0 then 0xA0 ≤ second && second ≤ 0xBF
  else if lead = 0xED then 0x80 ≤ second && second ≤ 0x9F
  else if lead = 0xF0 then 0x90 ≤ second && second ≤ 0xBF
  else if lead = 0xF4 then 0x80 ≤ second && second ≤ 0x8F
  else isContinuation second

def char2 (a b : UInt8) : Char := Char.ofNat ((a.toNat - 0xC0) * 0x40 + (b.toNat - 0x80))

def char3 (a b c : UInt8) : Char :=
  Char.ofNat ((a.toNat - 0xE0) * 0x1000 + (b.toNat - 0x80) * 0x40 + (c.toNat - 0x80))

def char4 (a b c d : UInt8) : Char :=
  Char.ofNat ((a.toNat - 0xF0) * 0x40000 + (b.toNat - 0x80) * 0x1000 + (c.toNat - 0x80) * 0x40 +
    (d.toNat - 0x80))

def decode : List UInt8 → List Piece
  | [] => []
  | a :: rest =>
    if a < 0x80 then .char (Char.ofNat a.toNat) :: decode rest
    else if 0xC2 ≤ a && a ≤ 0xDF then
      match rest with
      | [] => [.junk [a]]
      | b :: rest' =>
        if isContinuation b then .char (char2 a b) :: decode rest'
        else .junk [a] :: decode (b :: rest')
    else if 0xE0 ≤ a && a ≤ 0xEF then
      match rest with
      | [] => [.junk [a]]
      | b :: rest' =>
        if admitsSecond a b then
          match rest' with
          | [] => [.junk [a, b]]
          | c :: rest'' =>
            if isContinuation c then .char (char3 a b c) :: decode rest''
            else .junk [a, b] :: decode (c :: rest'')
        else .junk [a] :: decode (b :: rest')
    else if 0xF0 ≤ a && a ≤ 0xF4 then
      match rest with
      | [] => [.junk [a]]
      | b :: rest' =>
        if admitsSecond a b then
          match rest' with
          | [] => [.junk [a, b]]
          | c :: rest'' =>
            if isContinuation c then
              match rest'' with
              | [] => [.junk [a, b, c]]
              | d :: rest''' =>
                if isContinuation d then .char (char4 a b c d) :: decode rest'''
                else .junk [a, b, c] :: decode (d :: rest''')
            else .junk [a, b] :: decode (c :: rest'')
        else .junk [a] :: decode (b :: rest')
    else .junk [a] :: decode rest

/-- The replacement character, `U+FFFD`. -/
def replacement : Char := Char.ofNat 0xFFFD

def Piece.lenient : Piece → Char
  | .char c => c
  | .junk _ => replacement

/-- Decodes every byte, with one replacement character for each part of junk. -/
def lenient (input : List UInt8) : String := String.ofList ((decode input).map Piece.lenient)

def Piece.char? : Piece → Option Char
  | .char c => some c
  | .junk _ => none

def strict? (input : List UInt8) : Option String :=
  ((decode input).mapM Piece.char?).map String.ofList

end CecGateway.Utf8
