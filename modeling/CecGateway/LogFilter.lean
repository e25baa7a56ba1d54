import CecGateway.LogFilter.Expression
import CecGateway.Text.Blank

/-!
# Log filters

A filter is a list of directives. A directive names a level, or a target, or a span with fields in
brackets, and after an equals sign the level for it.
-/

namespace CecGateway.LogFilter

/-- The part of a directive that is being read, with the place where its text begins. -/
inductive Part
  | start
  | targetOrLevel
  | span
  | field (first : Nat)
  | fields
  | target
  | level (first : Nat)
  deriving DecidableEq, Repr

def levels : List String := ["trace", "debug", "info", "warn", "error", "off"]

def isLevel (text : List Char) : Bool :=
  levels.contains (String.ofList (text.map Char.toLower)) ||
    (Decimal.readBelow? UInt64.size text).any (· ≤ 5)

/-- A number that is no expression, as its sign repeats nothing. -/
def isSigned (text : List Char) : Bool :=
  match text with
  | '+' :: rest =>
    Decimal.isFloat text ||
      ["inf", "infinity", "nan"].contains (String.ofList (rest.map Char.toLower))
  | _ => false

def isField (text : List Char) : Bool :=
  !text.isEmpty &&
    match text.splitOn '=' with
    | _ :: value :: _ => isSigned value || Expression.isValid value
    | _ => true

def next (text : List Char) (place : Nat) (c : Char) : Part → Option Part
  | .start =>
    if c = '[' then some .span
    else if Text.isLetterOrNumber c || c = '-' || c = ':' || c = '_' then some .targetOrLevel
    else none
  | .targetOrLevel =>
    if c = '=' then some (.level (place + 1)) else if c = '[' then some .span
    else some .targetOrLevel
  | .span =>
    if c = ']' then some .target else if c = '\x7b' then some (.field (place + 1)) else some .span
  | .field first =>
    if c = '\x7d' then
      if isField ((text.drop first).take (place - first)) then some .fields else none
    else some (.field first)
  | .fields => if c = ']' then some .target else none
  | .target => if c = '=' then some (.level (place + 1)) else none
  | .level first => some (.level first)

def mayEnd (text : List Char) : Part → Bool
  | .targetOrLevel | .target => true
  | .level first =>
    let level := text.drop first
    level.isEmpty || isLevel level
  | _ => false

/-- Places are counted without the blanks at the start of the text, but looked up with them. -/
def isDirective (text : List Char) : Bool :=
  ((Text.trim text).zipIdx.foldlM (fun p (c, place) => next text place c p) Part.start).any
    (mayEnd text)

/-- Whether a text is a filter; empty directives do not count. -/
def isValid (filter : String) : Bool :=
  (filter.toList.splitOn ',').all fun directive => directive.isEmpty || isDirective directive

end CecGateway.LogFilter
