import CecGateway.Shell.Syntax

/-!
# Marked text and patterns

Expanding a word leaves a text whose characters remember where they came from: it decides whether
they have a meaning in a pattern, and whether the text is cut into fields at them.
-/

namespace CecGateway.Shell

inductive Mark
  /-- A quoted character stands for itself. -/
  | kept (c : Char)
  /-- A character as written may have a meaning in a pattern. -/
  | plain (c : Char)
  /-- A character of an expanded value may also separate fields. -/
  | loose (c : Char)
  /-- Between two values that stay apart. -/
  | cut
  /-- A quoted text begins, so that there is a field even if it is empty. -/
  | quoted
  deriving DecidableEq, Repr

/-- The text when it is not cut into fields. -/
def Mark.text : Mark → Bytes
  | kept c | plain c | loose c => [c]
  | cut => [' ']
  | quoted => []

def flat (marks : List Mark) : Bytes := marks.flatMap Mark.text

/-! ## Fields -/

/-- Fields while a text is cut: those that are complete, and the one being read, if it has begun. -/
structure Fields where
  complete : List Bytes := []
  current : Option Bytes := none
  /-- A blank has just ended a field, so that a separator after it ends no other. -/
  isAfterBlank : Bool := false

namespace Fields

def add (f : Fields) (text : Bytes) : Fields :=
  { f with current := some (f.current.getD [] ++ text), isAfterBlank := false }

def close (f : Fields) : Fields :=
  { complete := f.complete ++ f.current.toList }

/-- Blank separators end a field together; of any others, each ends one. -/
def separate (f : Fields) (isBlank : Bool) : Fields :=
  match f.current with
  | some _ => { f.close with isAfterBlank := isBlank }
  | none =>
    if isBlank then f
    else if f.isAfterBlank then { f with isAfterBlank := false }
    else { f with complete := f.complete ++ [[]] }

def step (separators : Bytes) (f : Fields) : Mark → Fields
  | .kept c | .plain c => f.add [c]
  | .loose c =>
    if c ∈ separators then f.separate (c = ' ' || c = '\t' || c = '\n') else f.add [c]
  | .cut => f.close
  | .quoted => f.add []

end Fields

def fields (separators : Bytes) (marks : List Mark) : List Bytes :=
  (marks.foldl (Fields.step separators) {}).close.complete

/-! ## Patterns -/

inductive Glyph
  | exactly (c : Char)
  | one
  | many
  | oneOf (isNegated : Bool) (ranges : List (Char × Char))
  deriving DecidableEq, Repr

/-- The ranges of a class up to its closing bracket, which may itself come first. -/
def classRanges (isFirst : Bool) : List Mark → Option (List (Char × Char) × List Mark)
  | [] => none
  | m :: rest =>
    match m, rest with
    | .plain ']', rest | .loose ']', rest =>
      if isFirst then do
        let (ranges, rest) ← classRanges false rest
        return ((']', ']') :: ranges, rest)
      else some ([], rest)
    | m, .plain '-' :: last :: rest =>
      match m.text, last.text with
      | [a], [b] =>
        if last = .plain ']' then do
          let (ranges, rest) ← classRanges false rest
          return ((a, a) :: ('-', '-') :: ranges, rest)
        else do
          let (ranges, rest) ← classRanges false rest
          return ((a, b) :: ranges, rest)
      | _, _ => none
    | m, rest => do
      let (ranges, rest) ← classRanges false rest
      return (m.text.map (fun c => (c, c)) ++ ranges, rest)

def classGlyph (marks : List Mark) : Option (Glyph × List Mark) :=
  match marks with
  | .plain '!' :: rest | .loose '!' :: rest => do
    let (ranges, rest) ← classRanges true rest
    return (.oneOf true ranges, rest)
  | _ => do
    let (ranges, rest) ← classRanges true marks
    return (.oneOf false ranges, rest)

def glyphs : Nat → List Mark → List Glyph
  | 0, _ => []
  | fuel + 1, marks =>
    match marks with
    | [] => []
    | .kept c :: rest => .exactly c :: glyphs fuel rest
    | .cut :: rest => .exactly ' ' :: glyphs fuel rest
    | .quoted :: rest => glyphs fuel rest
    | .plain c :: rest | .loose c :: rest =>
      match c with
      | '?' => .one :: glyphs fuel rest
      | '*' => .many :: glyphs fuel rest
      | '[' =>
        match classGlyph rest with
        | some (glyph, rest) => glyph :: glyphs fuel rest
        | none => .exactly '[' :: glyphs fuel rest
      | c => .exactly c :: glyphs fuel rest

def pattern (marks : List Mark) : List Glyph := glyphs marks.length marks

def Glyph.admits (c : Char) : Glyph → Bool
  | exactly d => c = d
  | one | many => true
  | oneOf isNegated ranges => (ranges.any fun r => r.1 ≤ c && c ≤ r.2) != isNegated

def matchesPattern : List Glyph → Bytes → Bool
  | [], text => text.isEmpty
  | .many :: pattern, [] => matchesPattern pattern []
  | .many :: pattern, c :: text =>
    matchesPattern pattern (c :: text) || matchesPattern (.many :: pattern) text
  | glyph :: pattern, c :: text => glyph.admits c && matchesPattern pattern text
  | _ :: _, [] => false
termination_by pattern text => pattern.length + text.length

/-- A text without the shortest or longest part at its start or end that matches. -/
def stripped (fromEnd isLongest : Bool) (pattern : List Glyph) (text : Bytes) : Bytes :=
  let sizes := List.range (text.length + 1)
  let isMatch (n : Nat) : Bool :=
    if fromEnd then matchesPattern pattern (text.drop (text.length - n))
    else matchesPattern pattern (text.take n)
  match (if isLongest then sizes.reverse else sizes).find? isMatch with
  | some n => if fromEnd then text.take (text.length - n) else text.drop n
  | none => text

end CecGateway.Shell
