import CecGateway.Text.Blank

/-!
# Markers in a line

Adapter tools answer in free text. A line is recognised by a marker it contains, and its value is
what follows the first colon, what stands between the outermost quotes, or what follows the marker.
-/

namespace CecGateway.Text

/-- What follows the first occurrence of `marker`. -/
def after? (marker : List Char) : List Char → Option (List Char)
  | [] => if marker.isEmpty then some [] else none
  | c :: rest =>
    if marker.isPrefixOf (c :: rest) then some ((c :: rest).drop marker.length)
    else after? marker rest

def occurs (marker line : List Char) : Bool := (after? marker line).isSome

/-- Drops one leading `c`, if there is one. -/
def dropOne (c : Char) : List Char → List Char
  | [] => []
  | d :: rest => if d = c then rest else d :: rest

/-- The text after the first colon, less one space. -/
def colonValue (line : List Char) : List Char :=
  match after? [':'] line with
  | some rest => dropOne ' ' rest
  | none => []

/-- The text between the first and the last single quote, if there are two. -/
def quoted? (line : List Char) : Option (List Char) :=
  match line.dropWhile (· ≠ '\'') with
  | [] => none
  | _ :: rest =>
    match rest.reverse.dropWhile (· ≠ '\'') with
    | [] => none
    | _ :: inner => some inner.reverse

def quotedValue (line : List Char) : List Char := (quoted? line).getD (colonValue line)

/-- The trimmed text after the marker, less one colon. -/
def valueAfter (marker line : List Char) : List Char :=
  match after? marker line with
  | some rest => trim (dropOne ':' (trimStart rest))
  | none => []

end CecGateway.Text

namespace CecGateway.Line

def contains (marker line : String) : Bool := Text.occurs marker.toList line.toList

/-- The text after the first colon, less one space; empty without a colon. -/
def value (line : String) : String := String.ofList (Text.colonValue line.toList)

/-- The text between the outermost single quotes, or the line's `value`. -/
def quotedValue (line : String) : String := String.ofList (Text.quotedValue line.toList)

/-- The trimmed text after the marker, less one colon. -/
def valueAfter (marker line : String) : String :=
  String.ofList (Text.valueAfter marker.toList line.toList)

/-- The first line that contains the marker. -/
def find? (marker : String) (lines : List String) : Option String := lines.find? (contains marker)

end CecGateway.Line
