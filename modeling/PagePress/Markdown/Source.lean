import PagePress.Markdown.Event
import PagePress.Text.Ascii

/-!
# Reading a markdown text

* `Source` is a text with access to what follows each of its characters;
* the functions on character lists measure what stands at their front: blanks, a line ending,
  a blank line, a run of one character.
-/

namespace PagePress

namespace Markdown

/-! ## What stands at the front -/

/-- Space, tab, vertical tab or form feed. -/
def isGap (c : Char) : Bool := c = ' ' || c = '\t' || c.toNat = 11 || c.toNat = 12

/-- A gap or the character of a line ending. -/
def isSpacing (c : Char) : Bool := isGap c || c = '\n' || c = '\r'

/-- The number of leading characters of a class. -/
def countWhile (p : Char → Bool) (cs : List Char) : Nat := (cs.takeWhile p).length

/-- The number of leading characters equal to one. -/
def run (c : Char) (cs : List Char) : Nat := countWhile (· == c) cs

/-- The length of the line ending at the front; the end of the text is one of no length. -/
def lineEnding? : List Char → Option Nat
  | [] => some 0
  | '\n' :: _ => some 1
  | '\r' :: '\n' :: _ => some 2
  | '\r' :: _ => some 1
  | _ => none

/-- Whether a line ends at the front. -/
def atLineEnd (cs : List Char) : Bool := (lineEnding? cs).isSome

/-- The length of the blank line at the front, with its ending. -/
def blankLine? (cs : List Char) : Option Nat :=
  let n := countWhile isGap cs
  (lineEnding? (cs.drop n)).map (n + ·)

/-- Whether the rest of the line is blank. -/
def isBlankLine (cs : List Char) : Bool := (blankLine? cs).isSome

/-- The length of the line at the front, with its line feed. -/
def lineLength : List Char → Nat
  | [] => 0
  | '\n' :: _ => 1
  | _ :: cs => lineLength cs + 1

/-- The number of characters at the end of a list that belong to a class. -/
def countAtEnd (p : Char → Bool) (cs : List Char) : Nat := countWhile p cs.reverse

/-- The value of decimal digits. -/
def decimalValue (cs : List Char) : Nat := cs.foldl (fun n c => n * 10 + (c.toNat - 48)) 0

/-! ## Sources -/

/-- A text with access to what follows each character. -/
structure Source where
  /-- The rest of the text from each character on, and at last the empty rest. -/
  rests : Array (List Char)
  /-- The byte offset of each character, and at last that of the end. -/
  offsets : Array Nat

namespace Source

/-- All rests of a list, from the whole list to the empty one. -/
def restsOf : List Char → List (List Char)
  | [] => [[]]
  | c :: cs => (c :: cs) :: restsOf cs

/-- The byte offsets of characters that start at a byte offset. -/
def offsetsFrom (n : Nat) : List Char → List Nat
  | [] => [n]
  | c :: cs => n :: offsetsFrom (n + c.utf8Size) cs

/-- The source of a text. -/
def ofText (text : String) : Source :=
  ⟨(restsOf text.toList).toArray, (offsetsFrom 0 text.toList).toArray⟩

/-- The number of characters. -/
def size (s : Source) : Nat := s.rests.size - 1

/-- The rest of the text from a character on. -/
def drop (s : Source) (i : Nat) : List Char := (s.rests[i]?).getD []

/-- The characters from one place up to another. -/
def slice (s : Source) (start stop : Nat) : List Char :=
  if s.size ≤ stop then s.drop start else (s.drop start).take (stop - start)

/-- The text from one place up to another. -/
def text (s : Source) (start stop : Nat) : String := String.ofList (s.slice start stop)

/-- The character at a place. -/
def at? (s : Source) (i : Nat) : Option Char := (s.drop i).head?

/-- The character before a place. -/
def before? (s : Source) (i : Nat) : Option Char := if i = 0 then none else s.at? (i - 1)

/-- The byte offset of a place. -/
def byteOffset (s : Source) (i : Nat) : Nat := (s.offsets[i]?).getD (s.offsets.back?.getD 0)

/-- The span between two places, in bytes. -/
def span (s : Source) (start stop : Nat) : Span := ⟨s.byteOffset start, s.byteOffset stop⟩

end Source

end Markdown

end PagePress
