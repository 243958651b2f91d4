import PagePress.Markdown.Event

/-!
# Lines and columns

* `LineIndex.ofText` lists the lines of a text with their starts in bytes and in characters;
* `LineIndex.point` is the line, the column and the character offset of a byte offset.
-/

namespace PagePress

namespace Markdown

/-- A line: its start in bytes and in characters, and the text from there on. -/
structure Line where
  byteStart : Nat
  charStart : Nat
  rest : List Char
deriving Repr

/-- The first line of a text and the lines after it. -/
structure LineIndex where
  first : Line
  later : List Line
deriving Repr

namespace LineIndex

/-- The lines that start after line feeds of `cs`, where `bytes` bytes and `chars` characters
stand before it. -/
def linesAfter (bytes chars : Nat) : List Char → List Line
  | [] => []
  | c :: cs =>
    let bytes := bytes + c.utf8Size
    let tail := linesAfter bytes (chars + 1) cs
    if c = '\n' then ⟨bytes, chars + 1, cs⟩ :: tail else tail

/-- The lines of a text. -/
def ofText (text : String) : LineIndex :=
  ⟨⟨0, 0, text.toList⟩, linesAfter 0 0 text.toList⟩

/-- The last line that starts at or before a byte offset, and the number of lines up to it. -/
def lineAt (index : LineIndex) (offset : Nat) : Nat × Line :=
  let started := index.later.takeWhile fun l => l.byteStart ≤ offset
  (started.length + 1, started.getLastD index.first)

/-- The number of characters that take up exactly so many bytes at the front of a text. -/
def charsIn? : Nat → List Char → Option Nat
  | 0, _ => some 0
  | _ + 1, [] => none
  | n + 1, c :: cs =>
    if c.utf8Size ≤ n + 1 then (charsIn? (n + 1 - c.utf8Size) cs).map (· + 1) else none

/-- The place of a byte offset; inside a character and past the end, bytes count as
characters. -/
def point (index : LineIndex) (offset : Nat) : Mdast.Point :=
  let (number, line) := index.lineAt offset
  let bytes := offset - line.byteStart
  let column := (charsIn? bytes line.rest).getD bytes
  ⟨number, column + 1, some (line.charStart + column)⟩

/-- The position of a span. -/
def position (index : LineIndex) (s : Span) : Mdast.Position :=
  .span (index.point s.start) (index.point s.stop)

end LineIndex

end Markdown

end PagePress
