import CecGateway.Text.Utf8

/-!
# Lines

Cutting a stream of bytes into lines, at once or as it arrives, and reading the text of a line
whose end may be a newline with a carriage return before it.
-/

namespace CecGateway

def splitLines : List UInt8 → List (List UInt8)
  | [] => []
  | b :: rest =>
    if b = 10 then [b] :: splitLines rest
    else match splitLines rest with
      | [] => [[b]]
      | line :: lines => (b :: line) :: lines

/-- A stream as far as it has arrived; the latest line and byte come first. -/
structure LineBuffer where
  complete : List (List UInt8) := []
  pending : List UInt8 := []

namespace LineBuffer

def push (buffer : LineBuffer) (b : UInt8) : LineBuffer :=
  if b = 10 then ⟨(b :: buffer.pending).reverse :: buffer.complete, []⟩
  else { buffer with pending := b :: buffer.pending }

def feed (buffer : LineBuffer) (chunk : List UInt8) : LineBuffer := chunk.foldl push buffer

/-- All lines, once the stream has ended. -/
def lines (buffer : LineBuffer) : List (List UInt8) :=
  buffer.complete.reverse ++ if buffer.pending.isEmpty then [] else [buffer.pending.reverse]

end LineBuffer

/-- The line without one byte at its end. -/
def withoutLast (b : UInt8) (line : List UInt8) : List UInt8 :=
  if line.getLast? = some b then line.dropLast else line

/-- The text of a line without its end; bytes that are no text are replaced. -/
def lineText (line : List UInt8) : String := Utf8.lenient (withoutLast 13 (withoutLast 10 line))

def linesOfChunks (chunks : List (List UInt8)) : List String :=
  (chunks.foldl LineBuffer.feed {}).lines.map lineText

end CecGateway
