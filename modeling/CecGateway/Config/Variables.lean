import CecGateway.Config
import CecGateway.Config.Toml.Words

/-!
# Variables

Settings from the environment. The name of a variable is the name of a setting behind `CECD_`, in
any case. Its value is a list if it holds a comma, and otherwise a truth value, a number, a quoted
text, or the text as it is.
-/

namespace CecGateway.Variables

abbrev Input := List Char

def isSeparator (c : Char) : Bool := c = ',' || c = '[' || c = ']' || c = '\x7b' || c = '\x7d'

def isSpace (c : Char) : Bool := c = ' ' || c = '\t' || c = '\n' || c = '\x0c' || c = '\r'

def skipSpace (input : Input) : Input := input.dropWhile isSpace

/-- A text without separators: a number if it reads as one. No setting is a fraction, so its value
does not matter. -/
def scalar (text : List Char) : Json :=
  if text.contains '.' && Decimal.isFloat text then .real .zero
  else match Decimal.readBelow? UInt64.size text, text with
    | some n, _ => .int n
    | none, '-' :: ds =>
      match Decimal.readBelow? (UInt64.size / 2 + 1) ds with
      | some n => if ds.head? = some '+' then .str (String.ofList text) else .int (-(n : Int))
      | none => .str (String.ofList text)
    | none, _ => .str (String.ofList text)

/-- The raw text between two double quotes, in which a backslash keeps the character after it. -/
def quotedText : Input → Option (List Char × Input)
  | '"' :: rest => some ([], rest)
  | '\\' :: c :: rest => (quotedText rest).map fun (text, rest) => ('\\' :: c :: text, rest)
  | c :: rest => (quotedText rest).map fun (text, rest) => (c :: text, rest)
  | [] => none

/-- Carries out the escapes of a quoted text; no control character but a tab may stand in it. -/
def unescape : Nat → Input → Option (List Char)
  | 0, _ => none
  | fuel + 1, input =>
    match input with
    | [] => some []
    | '\\' :: rest => do
      let (c, rest) ← Toml.escape rest
      return c :: (← unescape fuel rest)
    | c :: rest => do
      if !Toml.isPlain c then none
      return c :: (← unescape fuel rest)

def takeBytes : Nat → List Char → List Char
  | 0, _ | _, [] => []
  | n, c :: rest => if n < c.utf8Size then [] else c :: takeBytes (n - c.utf8Size) rest

/-- The value of a quoted text. What comes before its first escape is cut to as many bytes as it
has characters. -/
def unquote (text : List Char) : Option (List Char) := do
  let front := text.takeWhile (· ≠ '\\')
  let value ← unescape (text.length + 1) text
  if front.length = text.length then return value
  else return takeBytes front.length front ++ value.drop front.length

def quoted (input : Input) : Option (List Char × Input) := do
  let (text, rest) ← quotedText input
  return (← unquote text, rest)

def isKeyChar (c : Char) : Bool := c.isAlphanum || c = '_' || c = '-'

def key (input : Input) : Option (List Char × Input) :=
  match input with
  | '"' :: rest => quoted rest
  | _ =>
    let name := input.takeWhile isKeyChar
    if name.isEmpty then none else some (name, input.drop name.length)

/-- The text after a word, without regard to the case of its letters. -/
def afterWord (word : String) (input : Input) : Option Input :=
  let length := word.length
  if (input.take length).map Char.toLower = word.toList then some (input.drop length) else none

mutual

def value : Nat → Input → Option (Json × Input)
  | 0, _ => none
  | fuel + 1, input => do
    let input := skipSpace input
    let (v, rest) ←
      if let some rest := afterWord "true" input then some (Json.bool true, rest)
      else if let some rest := afterWord "false" input then some (Json.bool false, rest)
      else match input with
        | '"' :: rest => do
          let (text, rest) ← quoted rest
          return (.str (String.ofList text), rest)
        | '\'' :: c :: '\'' :: rest => some (.str (String.ofList [c]), rest)
        | '\'' :: _ => none
        | '[' :: rest => do return (.arr [], ← items fuel rest)
        | '\x7b' :: rest => do return (.obj [], ← members fuel rest)
        | rest =>
          let text := rest.takeWhile (!isSeparator ·)
          some (scalar (Text.trim text), rest.drop text.length)
    return (v, skipSpace rest)

/-- Skips the items of a list up to its closing bracket, which may follow a comma at once. -/
def items : Nat → Input → Option Input
  | 0, _ => none
  | _ + 1, ']' :: rest => some rest
  | fuel + 1, input => do
    match ← value fuel input with
    | (_, ',' :: rest) => items fuel rest
    | (_, ']' :: rest) => return rest
    | _ => none

/-- Skips the members of a table up to its closing brace, which may follow a comma at once. -/
def members : Nat → Input → Option Input
  | 0, _ => none
  | _ + 1, '\x7d' :: rest => some rest
  | fuel + 1, input => do
    let (_, rest) ← key (skipSpace input)
    match skipSpace rest with
    | '=' :: rest =>
      match ← value fuel rest with
      | (_, ',' :: rest) => members fuel rest
      | (_, '\x7d' :: rest) => return rest
      | _ => none
    | _ => none

end

/-- The value of a variable; a text that is no value stands for itself. -/
def read (text : String) : Json :=
  let input := Text.trim text.toList
  let isQuoted := match input with
    | c :: _ => c = '[' || c = '\x7b' || c = '"' || c = '\''
    | [] => false
  if input.contains ',' && !isQuoted then .arr []
  else match value (2 * input.length + 2) input with
    | some (v, []) => v
    | _ => .str (String.ofList input)

def lead : List Char := ['c', 'e', 'c', 'd', '_']

/-- The names in a name: dots separate them, and two underscores do too. -/
def parts (name : List Char) : List (List Char) :=
  match name with
  | '_' :: '_' :: rest | '.' :: rest => [] :: parts rest
  | c :: rest =>
    match parts rest with
    | [] => [[c]]
    | part :: more => (c :: part) :: more
  | [] => [[]]

/-- The setting that a variable makes, if no part of its name is empty. A name of several parts
makes a table, which no setting is. -/
def setting? (name value : String) : Option (String × Json) :=
  let name := name.toList.map Char.toLower
  if lead.isPrefixOf name then
    match parts (Text.trim (name.drop lead.length)) with
    | [] => none
    | part :: more =>
      if part.isEmpty || more.any (·.isEmpty) then none
      else some (String.ofList part, if more.isEmpty then read value else .obj [])
  else none

def settings (environment : List (String × String)) : List (String × Json) :=
  environment.filterMap fun v => setting? v.1 v.2

end CecGateway.Variables
