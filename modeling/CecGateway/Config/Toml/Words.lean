import CecGateway.Json.Reader

/-!
# Words of TOML

What stands between blanks in a TOML document: comments and line ends, strings, keys, numbers,
dates and times.
-/

namespace CecGateway.Toml

/-! ## Blanks and comments -/

abbrev Input := List Char

def skipBlanks (input : Input) : Input := input.dropWhile fun c => c = ' ' || c = '\t'

def newline? : Input → Option Input
  | '\n' :: rest => some rest
  | '\r' :: '\n' :: rest => some rest
  | _ => none

def isPlain (c : Char) : Bool := c = '\t' || (0x20 ≤ c.toNat && c.toNat ≠ 0x7F)

def skipComment (input : Input) : Input :=
  match input with
  | '#' :: rest => rest.dropWhile isPlain
  | _ => input

/-- The rest of a line holds nothing more. -/
def endOfLine (input : Input) : Option Input :=
  match skipComment (skipBlanks input) with
  | [] => some []
  | rest => newline? rest

def skipGaps : Nat → Input → Input
  | 0, input => input
  | fuel + 1, input =>
    let rest := skipComment (skipBlanks input)
    match newline? rest with
    | some rest => skipGaps fuel rest
    | none => rest

/-! ## Strings -/

def hexNumber (digits : List Char) : Option Nat :=
  digits.foldlM (fun n c => return 16 * n + (← Json.hexValue? c)) 0

def hexEscape (count : Nat) (input : Input) : Option (Char × Input) := do
  if input.length < count then none
  let n ← hexNumber (input.take count)
  if n.isValidChar then return (Char.ofNat n, input.drop count) else none

def escape : Input → Option (Char × Input)
  | 'u' :: rest => hexEscape 4 rest
  | 'U' :: rest => hexEscape 8 rest
  | '/' :: _ => none
  | c :: rest => do return (← Json.simpleEscape? c, rest)
  | [] => none

def basicBody : Nat → Input → Option (List Char × Input)
  | 0, _ => none
  | fuel + 1, input =>
    match input with
    | '"' :: rest => some ([], rest)
    | '\\' :: rest => do
      let (c, rest) ← escape rest
      let (text, rest) ← basicBody fuel rest
      return (c :: text, rest)
    | c :: rest => do
      if !isPlain c then none
      let (text, rest) ← basicBody fuel rest
      return (c :: text, rest)
    | [] => none

/-- Up to two quotes may stand right before the closing three. -/
def closing (quote : Char) (input : Input) : Option (List Char × Input) :=
  let count := min 5 (input.takeWhile (· = quote)).length
  if 3 ≤ count then some (List.replicate (count - 3) quote, input.drop count) else none

/-- After a backslash at the end of a line: skips blanks and newlines. -/
def skipContinuation : Nat → Input → Input
  | 0, input => input
  | fuel + 1, input =>
    let rest := skipBlanks input
    match newline? rest with
    | some rest => skipContinuation fuel rest
    | none => rest

/-- The rest of a multi-line string after its opening quotes; only one in double quotes has
escapes. -/
def multiBody (quote : Char) : Nat → Input → Option (List Char × Input)
  | 0, _ => none
  | fuel + 1, input =>
    match closing quote input with
    | some done => some done
    | none =>
      match input with
      | [] => none
      | c :: rest =>
        if c = '\\' && quote = '"' then
          if (newline? (skipBlanks rest)).isSome then
            multiBody quote fuel (skipContinuation rest.length rest)
          else do
            let (d, rest) ← escape rest
            let (text, rest) ← multiBody quote fuel rest
            return (d :: text, rest)
        else if let some rest := newline? input then do
          let (text, rest) ← multiBody quote fuel rest
          return ('\n' :: text, rest)
        else if isPlain c then do
          let (text, rest) ← multiBody quote fuel rest
          return (c :: text, rest)
        else none

/-- A newline right after the opening quotes does not belong to the string. -/
def multi (quote : Char) (input : Input) : Option (List Char × Input) :=
  multiBody quote (input.length + 1) ((newline? input).getD input)

def literalBody (input : Input) : Option (List Char × Input) :=
  let text := input.takeWhile fun c => isPlain c && c ≠ '\''
  match input.drop text.length with
  | '\'' :: rest => some (text, rest)
  | _ => none

def string : Input → Option (List Char × Input)
  | '"' :: '"' :: '"' :: rest => multi '"' rest
  | '\'' :: '\'' :: '\'' :: rest => multi '\'' rest
  | '"' :: rest => basicBody (rest.length + 1) rest
  | '\'' :: rest => literalBody rest
  | _ => none

/-! ## Keys -/

def isBare (c : Char) : Bool :=
  ('a' ≤ c && c ≤ 'z') || ('A' ≤ c && c ≤ 'Z') || Decimal.isDigit c || c = '_' || c = '-'

def simpleKey (input : Input) : Option (String × Input) :=
  match input with
  | '"' :: rest => (basicBody (rest.length + 1) rest).map fun (k, rest) => (String.ofList k, rest)
  | '\'' :: rest => (literalBody rest).map fun (k, rest) => (String.ofList k, rest)
  | _ =>
    let bare := input.takeWhile isBare
    if bare.isEmpty then none else some (String.ofList bare, input.drop bare.length)

/-- Containers and dotted keys are nested less deeply than this. -/
def nestingLimit : Nat := 80

/-- Less than `limit` keys with dots between them, and blanks around. -/
def keysBelow : Nat → Input → Option (List String × Input)
  | 0, _ | 1, _ => none
  | limit + 2, input => do
    let (k, rest) ← simpleKey (skipBlanks input)
    match skipBlanks rest with
    | '.' :: rest => do
      let (ks, rest) ← keysBelow (limit + 1) rest
      return (k :: ks, rest)
    | rest => return ([k], rest)

def key (input : Input) : Option (List String × Input) := keysBelow nestingLimit input

/-! ## Numbers and times -/

/-- One or more digits with single underscores between them, without the underscores. -/
def groupedDigits (isDigit : Char → Bool) : List Char → Option (List Char)
  | [] => none
  | [c] => if isDigit c then some [c] else none
  | c :: '_' :: rest => if isDigit c then (groupedDigits isDigit rest).map (c :: ·) else none
  | c :: rest => if isDigit c then (groupedDigits isDigit rest).map (c :: ·) else none

def inBase (base : Nat) (isDigit : Char → Bool) (text : List Char) : Option Json := do
  let digits ← groupedDigits isDigit text
  let n ← digits.foldlM (fun n c => return base * n + (← Json.hexValue? c)) 0
  if n < UInt64.size / 2 then return .int n else none

def decimalDigits (text : List Char) : Option (List Char) := do
  let digits ← groupedDigits Decimal.isDigit text
  if digits.head? = some '0' && digits.length ≠ 1 then none else return digits

def decimalInteger (negative : Bool) (text : List Char) : Option Json := do
  let n := Decimal.valueOf (← decimalDigits text)
  if n < UInt64.size / 2 || (negative && n = UInt64.size / 2) then
    return .int (if negative then -(n : Int) else n)
  else none

/-- A number with a fraction or an exponent. One that is too large is refused if it is positive,
and has no value if it is negative. -/
def float (negative : Bool) (text : List Char) : Option Json := do
  let whole := text.takeWhile fun c => Decimal.isDigit c || c = '_'
  let rest := text.drop whole.length
  let _ ← decimalDigits whole
  let (fraction, rest) ← match rest with
    | '.' :: rest =>
      let fraction := rest.takeWhile fun c => Decimal.isDigit c || c = '_'
      match groupedDigits Decimal.isDigit fraction with
      | some digits => some (digits, rest.drop fraction.length)
      | none => none
    | _ => some ([], rest)
  let exponent ← match rest with
    | [] => some 0
    | e :: rest =>
      if e ≠ 'e' && e ≠ 'E' then none
      else match rest with
        | '-' :: ds => (groupedDigits Decimal.isDigit ds).map fun ds => -(Decimal.valueOf ds : Int)
        | '+' :: ds => (groupedDigits Decimal.isDigit ds).map fun ds => (Decimal.valueOf ds : Int)
        | ds => (groupedDigits Decimal.isDigit ds).map fun ds => (Decimal.valueOf ds : Int)
  let digits := whole.filter (· ≠ '_') ++ fraction
  let n := Decimal.valueOf digits
  let power := exponent - fraction.length
  -- beyond these bounds the value is zero or infinite
  let x :=
    if n = 0 || power + digits.length < -400 then some .zero
    else if 400 < power + digits.length then none
    else if 0 ≤ power then Binary64.ofFraction? (n * Nat.pow 10 power.toNat) 1
    else Binary64.ofFraction? n (Nat.pow 10 (-power).toNat)
  match x with
  | some x => return .real (if negative then x.neg else x)
  | none => if negative then return .null else none

def unsignedNumber (negative : Bool) (text : List Char) : Option Json :=
  if text = ['i', 'n', 'f'] || text = ['n', 'a', 'n'] then some .null
  else (decimalInteger negative text).or (float negative text)

def twoDigits (low high : Nat) : List Char → Bool
  | [a, b] =>
    Decimal.isDigit a && Decimal.isDigit b &&
      low ≤ Decimal.valueOf [a, b] && Decimal.valueOf [a, b] ≤ high
  | _ => false

def daysOf (year month : Nat) : Nat :=
  if month = 2 then
    if year % 4 = 0 && (year % 100 ≠ 0 || year % 400 = 0) then 29 else 28
  else if month ∈ [4, 6, 9, 11] then 30 else 31

def isDate (text : List Char) : Bool :=
  let month := (text.drop 5).take 2
  text.length = 10 && (text.take 4).all Decimal.isDigit && text[4]? = some '-' &&
    twoDigits 1 12 month && text[7]? = some '-' &&
    twoDigits 1 (daysOf (Decimal.valueOf (text.take 4)) (Decimal.valueOf month)) (text.drop 8)

def isTime (text : List Char) : Bool :=
  twoDigits 0 23 (text.take 2) && text[2]? = some ':' && twoDigits 0 59 ((text.drop 3).take 2) &&
    text[5]? = some ':' && twoDigits 0 60 ((text.drop 6).take 2) &&
    match text.drop 8 with
    | [] => true
    | '.' :: ds => !ds.isEmpty && ds.all Decimal.isDigit
    | _ => false

def isOffset : List Char → Bool
  | [] | ['Z'] | ['z'] => true
  | sign :: rest =>
    (sign = '+' || sign = '-') && rest.length = 5 && twoDigits 0 23 (rest.take 2) &&
      rest[2]? = some ':' && twoDigits 0 59 (rest.drop 3)

/-- A date, a time, or both with an optional offset. -/
def isDateTime (text : List Char) : Bool :=
  isTime text || isDate text ||
    match text.drop 10 with
    | t :: rest =>
      let time := rest.takeWhile fun c => Decimal.isDigit c || c = ':' || c = '.'
      isDate (text.take 10) && (t = 'T' || t = 't' || t = ' ') && isTime time &&
        isOffset (rest.drop time.length)
    | [] => false

def isAtomChar (c : Char) : Bool := isBare c || c = '+' || c = '.' || c = ':'

def atom (input : Input) : Option (Json × Input) :=
  let text := input.takeWhile isAtomChar
  let rest := input.drop text.length
  let spaced := match rest with
    | ' ' :: more => text ++ ' ' :: more.takeWhile isAtomChar
    | _ => text
  if isDate text && isDateTime spaced then some (.obj [], input.drop spaced.length)
  else if isDateTime text then some (.obj [], rest)
  else
    let value : Option Json := match text with
      | ['t', 'r', 'u', 'e'] => some (.bool true)
      | ['f', 'a', 'l', 's', 'e'] => some (.bool false)
      | '0' :: 'x' :: ds => inBase 16 (fun c => (Json.hexValue? c).isSome) ds
      | '0' :: 'o' :: ds => inBase 8 (fun c => '0' ≤ c && c ≤ '7') ds
      | '0' :: 'b' :: ds => inBase 2 (fun c => c = '0' || c = '1') ds
      | '-' :: ds => unsignedNumber true ds
      | '+' :: ds => unsignedNumber false ds
      | ds => unsignedNumber false ds
    value.map (·, rest)

end CecGateway.Toml
