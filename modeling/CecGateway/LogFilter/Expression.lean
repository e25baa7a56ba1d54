import CecGateway.Text.Decimal
import CecGateway.Text.Letters

/-!
# Expressions

The regular expressions that a log filter matches values with. Only whether a text is one is
asked: no tables of characters are at hand, so that whatever needs one, as `\d` and a case that is
ignored do, is refused. The texts hold no equals sign and no closing brace.
-/

namespace CecGateway.LogFilter.Expression

abbrev Input := List Char

structure Flags where
  ignoresCase : Bool := false
  isUnicode : Bool := true

/-! ## Escapes -/

inductive Escape
  /-- A character, which may be given as a byte. -/
  | literal (c : Char) (isByte : Bool)
  /-- `\d`, `\s` or `\w`, or what is outside of it. -/
  | kind (isNegated : Bool)
  | edge
  | wordEdge

def hexValue? (c : Char) : Option Nat :=
  if Decimal.isDigit c then some (c.toNat - '0'.toNat)
  else if 'a' ≤ c && c ≤ 'f' then some (c.toNat - 'a'.toNat + 10)
  else if 'A' ≤ c && c ≤ 'F' then some (c.toNat - 'A'.toNat + 10)
  else none

def numbered (count : Nat) (input : Input) : Option (Escape × Input) := do
  let digits := input.take count
  if digits.length < count then none
  let n ← digits.foldlM (fun n c => return 16 * n + (← hexValue? c)) 0
  if n.isValidChar then return (.literal (Char.ofNat n) (count = 2), input.drop count) else none

def escape (input : Input) : Option (Escape × Input) :=
  match input with
  | [] => none
  | c :: rest =>
    match c with
    | 'x' => numbered 2 rest
    | 'u' => numbered 4 rest
    | 'U' => numbered 8 rest
    | 'd' | 's' | 'w' => some (.kind false, rest)
    | 'D' | 'S' | 'W' => some (.kind true, rest)
    | 'a' => some (.literal '\x07' false, rest)
    | 'f' => some (.literal '\x0c' false, rest)
    | 'n' => some (.literal '\n' false, rest)
    | 'r' => some (.literal '\r' false, rest)
    | 't' => some (.literal '\t' false, rest)
    | 'v' => some (.literal '\x0b' false, rest)
    | 'A' | 'z' => some (.edge, rest)
    | 'b' | 'B' | '<' | '>' => some (.wordEdge, rest)
    | c => if c.isAlphanum || 0x80 ≤ c.toNat then none else some (.literal c false, rest)

def admitsLiteral (flags : Flags) (c : Char) (isByte : Bool) : Bool :=
  if flags.isUnicode then !flags.ignoresCase else !isByte || c.toNat < 0x80

def admitsEscape (flags : Flags) : Escape → Bool
  | .literal c isByte => admitsLiteral flags c isByte
  | .kind isNegated => !flags.isUnicode && !isNegated
  | .edge => true
  | .wordEdge => !flags.isUnicode

/-! ## Classes -/

def asciiClasses : List String :=
  ["alnum", "alpha", "ascii", "blank", "cntrl", "digit", "graph", "lower", "print", "punct",
    "space", "upper", "word", "xdigit"]

def asciiClass? (input : Input) : Option (Bool × Input) := do
  let (isNegated, rest) ← match input with
    | ':' :: '^' :: rest => some (true, rest)
    | ':' :: rest => some (false, rest)
    | _ => none
  let name := rest.takeWhile (· ≠ ':')
  match rest.drop name.length with
  | ':' :: ']' :: rest =>
    if asciiClasses.contains (String.ofList name) then return (isNegated, rest) else none
  | _ => none

/-- One character of a class, or without one a kind of characters. -/
def classItem (flags : Flags) (input : Input) : Option (Option Char × Input) :=
  let literal (c : Char) (rest : Input) : Option (Option Char × Input) :=
    if flags.isUnicode || c.toNat < 0x80 then some (some c, rest) else none
  match input with
  | '\\' :: rest => do
    match ← escape rest with
    | (.literal c _, rest) => literal c rest
    | (.kind isNegated, rest) =>
      if flags.isUnicode || isNegated then none else return (none, rest)
    | _ => none
  | c :: rest => literal c rest
  | [] => none

/-- After the opening bracket: whether the class is negated, and its body without the dashes or
the bracket that stand for themselves at the start. -/
def classStart (input : Input) : Bool × Input :=
  let (isNegated, rest) := match input with
    | '^' :: rest => (true, rest)
    | _ => (false, input)
  match rest with
  | ']' :: rest => (isNegated, rest)
  | _ => (isNegated, rest.dropWhile (· = '-'))

def classBody (flags : Flags) : Nat → Input → Option Input
  | 0, _ => none
  | fuel + 1, input =>
    match input with
    | ']' :: rest => some rest
    | '[' :: rest =>
      match asciiClass? rest with
      | some (isNegated, rest) =>
        if isNegated && !flags.isUnicode then none else classBody flags fuel rest
      | none => do
        let (isNegated, rest) := classStart rest
        if isNegated && !flags.isUnicode then none
        classBody flags fuel (← classBody flags fuel rest)
    | '&' :: '&' :: rest | '-' :: '-' :: rest | '~' :: '~' :: rest => classBody flags fuel rest
    | _ => do
      let (first, rest) ← classItem flags input
      match rest with
      | '-' :: ']' :: _ | '-' :: '-' :: _ => classBody flags fuel rest
      | '-' :: rest => do
        let (last, rest) ← classItem flags rest
        if (← first) ≤ (← last) then classBody flags fuel rest else none
      | _ => classBody flags fuel rest

def bracket (flags : Flags) (input : Input) : Option Input := do
  if flags.isUnicode && flags.ignoresCase then none
  let (isNegated, rest) := classStart input
  if isNegated && !flags.isUnicode then none
  classBody flags (2 * input.length + 2) rest

/-! ## Groups -/

/-- Sets flags up to a colon or parenthesis; a dash turns the flags after it off. -/
def readFlags : Nat → List Char → Flags → Input → Option (Flags × List Char × Input)
  | 0, _, _, _ => none
  | fuel + 1, seen, flags, input =>
    match input with
    | ':' :: _ | ')' :: _ => if seen.head? = some '-' then none else some (flags, seen, input)
    | c :: rest =>
      if c ∈ seen || !(c ∈ ['-', 'i', 'm', 's', 'U', 'u', 'R', 'x']) then none
      else
        let isOn := !('-' ∈ seen)
        let flags := if c = 'i' then { flags with ignoresCase := isOn } else flags
        let flags := if c = 'u' then { flags with isUnicode := isOn } else flags
        readFlags fuel (c :: seen) flags rest
    | [] => none

def groupName? (input : Input) : Option (List Char × Input) :=
  let name := input.takeWhile (· ≠ '>')
  let isLater (c : Char) : Bool :=
    Text.isLetterOrNumber c || c = '_' || c = '.' || c = '[' || c = ']'
  match name, input.drop name.length with
  | c :: more, _ :: rest =>
    if (c = '_' || (Text.isLetterOrNumber c && !Decimal.isDigit c)) && more.all isLater then
      some (name, rest)
    else none
  | _, _ => none

inductive Opening
  | group (flags : Flags) (name : Option (List Char))
  /-- Flags for what follows in the same group. -/
  | setting (flags : Flags)

/-- What follows an opening parenthesis. Nothing looks ahead or behind. -/
def opening (flags : Flags) (input : Input) : Option (Opening × Input) :=
  match input with
  | '?' :: '!' :: _ | '?' :: '<' :: '!' :: _ => none
  | '?' :: 'P' :: '<' :: rest | '?' :: '<' :: rest => do
    let (name, rest) ← groupName? rest
    return (.group flags (some name), rest)
  | '?' :: rest => do
    let (flags, seen, rest) ← readFlags (rest.length + 1) [] flags rest
    match rest with
    | ':' :: rest => return (.group flags none, rest)
    | _ :: rest => if seen.isEmpty then none else return (.setting flags, rest)
    | [] => none
  | _ => some (.group flags none, input)

/-- Groups are nested no deeper than this. -/
def maxDepth : Nat := 250

/-- The rest of an expression after a group of it, with the names of groups so far. An operator
repeats what is before it, if anything is. -/
def sequence : Nat → Nat → Flags → Bool → List (List Char) → Input →
    Option (List (List Char) × Input)
  | 0, _, _, _, _, _ => none
  | fuel + 1, depth, flags, canRepeat, names, input =>
    let goOn := sequence fuel depth flags
    match input with
    | [] => some (names, [])
    | ')' :: _ => some (names, input)
    | '(' :: rest => do
      match ← opening flags rest with
      | (.setting flags, rest) => sequence fuel depth flags false names rest
      | (.group inner name, rest) =>
        if depth = 0 || name.any (· ∈ names) then none
        let (names, rest) ← sequence fuel (depth - 1) inner false (name.toList ++ names) rest
        match rest with
        | ')' :: rest => goOn true names rest
        | _ => none
    | '|' :: rest => goOn false names rest
    | '{' :: _ => none
    | '[' :: rest => do goOn true names (← bracket flags rest)
    | '\\' :: rest => do
      let (e, rest) ← escape rest
      if admitsEscape flags e then goOn true names rest else none
    | c :: rest =>
      if c = '*' || c = '+' || c = '?' then
        if !canRepeat then none
        else match rest with
          | '?' :: rest => goOn true names rest
          | rest => goOn true names rest
      else if c = '.' then if flags.isUnicode then goOn true names rest else none
      else if c = '^' || c = '$' then goOn true names rest
      else if admitsLiteral flags c false then goOn true names rest
      else none

def isValid (text : List Char) : Bool :=
  match sequence (text.length + 1) maxDepth {} false [] text with
  | some (_, []) => true
  | _ => false

end CecGateway.LogFilter.Expression
