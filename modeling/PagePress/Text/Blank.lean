/-!
# Blank characters

* `isBlank` is the white space of the Unicode standard;
* `trim` drops it at both ends of a text, and `allBlank` texts hold nothing else.
-/

namespace PagePress

namespace Text

/-- A white space character of the Unicode standard. -/
def isBlank (c : Char) : Bool :=
  let n := c.toNat
  (9 ≤ n && n ≤ 13) || n = 32 || n = 0x85 || n = 0xA0 || n = 0x1680
    || (0x2000 ≤ n && n ≤ 0x200A) || n = 0x2028 || n = 0x2029 || n = 0x202F || n = 0x205F
    || n = 0x3000

/-- Drops leading characters of a class. -/
def trimStart (p : Char → Bool) (cs : List Char) : List Char := cs.dropWhile p

/-- Drops trailing characters of a class. -/
def trimEnd (p : Char → Bool) (cs : List Char) : List Char := (cs.reverse.dropWhile p).reverse

/-- Drops blanks at both ends. -/
def trim (s : String) : String := String.ofList (trimEnd isBlank (trimStart isBlank s.toList))

/-- A text of blanks only. -/
def allBlank (s : String) : Bool := s.toList.all isBlank

end Text

end PagePress
