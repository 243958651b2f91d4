/-!
# ASCII classes and case

Markup and markdown are delimited by ASCII characters; the classes here know no others.
-/

namespace PagePress

namespace Text

/-- A letter or a digit of ASCII. -/
def isAlnum (c : Char) : Bool := c.isAlpha || c.isDigit

/-- Space, tab, line feed, form feed or carriage return. -/
def isSpace (c : Char) : Bool :=
  c = ' ' || c = '\t' || c = '\n' || c = '\r' || c.toNat = 12

/-- A punctuation character of ASCII. -/
def isAsciiPunct (c : Char) : Bool :=
  let n := c.toNat
  (33 ≤ n && n ≤ 47) || (58 ≤ n && n ≤ 64) || (91 ≤ n && n ≤ 96) || (123 ≤ n && n ≤ 126)

/-- Lowers the letters of ASCII. -/
def lower (cs : List Char) : List Char := cs.map Char.toLower

/-- The rest of a text after a leading word, if it starts with the word. -/
def dropWord? (word : List Char) (cs : List Char) : Option (List Char) :=
  if word.isPrefixOf cs then some (cs.drop word.length) else none

/-- Whether a text starts with a lower-case word, letter case aside. -/
def startsWithLower (word : List Char) (cs : List Char) : Bool :=
  word.isPrefixOf (lower (cs.take word.length))

/-- The number of characters before the first occurrence of a word. -/
def find? (word : List Char) : List Char → Option Nat
  | [] => if word.isEmpty then some 0 else none
  | c :: rest =>
    if word.isPrefixOf (c :: rest) then some 0
    else (find? word rest).map (· + 1)

end Text

end PagePress
