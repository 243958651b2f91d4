/-!
# A place in a text

* `Cursor` is the rest of a text and where it starts;
* `Cursor.skip` and `Cursor.skipBreak` go on by a character or by a line break;
* `Gap` is what stands between two words: blanks, or line breaks that are folded.
-/

namespace PagePress

namespace Yaml

/-! ## Classes of characters -/

/-- A space or a tab. -/
def isBlank (c : Char) : Bool := c = ' ' || c = '\t'

/-- A character that ends a line. -/
def isBreak (c : Char) : Bool :=
  c = '\n' || c = '\r' || c = '\u0085' || c = '\u2028' || c = '\u2029'

/-- A letter or a digit, or one of two lines. -/
def isNameChar (c : Char) : Bool := c.isAlphanum || c = '-' || c = '_'

/-- A character that a text may hold. -/
def isAllowed (c : Char) : Bool :=
  let n := c.toNat
  n = 9 || n = 10 || n = 13 || (32 ≤ n && n ≤ 126) || n = 0x85 || (0xA0 ≤ n && n ≤ 0xD7FF)
    || (0xE000 ≤ n && n ≤ 0xFFFD && n ≠ 0xFEFF) || 0x10000 ≤ n

/-- Whether a blank, a line break or the end of the text comes next. -/
def atBlankOrEnd : List Char → Bool
  | [] => true
  | c :: _ => isBlank c || isBreak c

/-- Whether a line break or the end of the text comes next. -/
def atBreakOrEnd : List Char → Bool
  | [] => true
  | c :: _ => isBreak c

/-! ## Cursors -/

/-- The rest of a text and where it starts. -/
structure Cursor where
  rest : List Char
  /-- How many characters stand before. -/
  index : Nat
  line : Nat
  column : Nat
deriving DecidableEq, Repr

namespace Cursor

/-- The start of a text. -/
def start (text : List Char) : Cursor := ⟨text, 0, 0, 0⟩

/-- Goes on by a character. -/
def skip (c : Cursor) : Cursor :=
  match c.rest with
  | [] => c
  | _ :: rest => ⟨rest, c.index + 1, c.line, c.column + 1⟩

/-- Goes on by several characters. -/
def skipMany : Nat → Cursor → Cursor
  | 0, c => c
  | n + 1, c => skipMany n c.skip

/-- Goes on by a line break, if there is one, and gives the break as it is read. -/
def skipBreak (c : Cursor) : List Char × Cursor :=
  match c.rest with
  | '\r' :: '\n' :: rest => (['\n'], ⟨rest, c.index + 2, c.line + 1, 0⟩)
  | b :: rest =>
    if b = '\u2028' ∨ b = '\u2029' then ([b], ⟨rest, c.index + 1, c.line + 1, 0⟩)
    else if isBreak b then (['\n'], ⟨rest, c.index + 1, c.line + 1, 0⟩)
    else ([], c)
  | [] => ([], c)

/-- Goes on over characters of a class. -/
def skipWhile (p : Char → Bool) (c : Cursor) : Cursor := skipMany (c.rest.takeWhile p).length c

/-- Whether the mark between documents comes next. -/
def atMark (mark : Char) (c : Cursor) : Bool :=
  c.column = 0 && match c.rest with
    | a :: b :: d :: rest => a = mark && b = mark && d = mark && atBlankOrEnd rest
    | _ => false

/-- Whether a document starts or ends here. -/
def atDocumentMark (c : Cursor) : Bool := c.atMark '-' || c.atMark '.'

end Cursor

/-! ## Gaps -/

/-- What stands between two words. -/
structure Gap where
  /-- Whether there is a line break. -/
  broken : Bool
  /-- The blanks before any line break. -/
  blanks : List Char
  /-- The first line break. -/
  first : List Char
  /-- All other line breaks. -/
  more : List Char
deriving DecidableEq, Repr

namespace Gap

/-- Nothing between two words. -/
def none : Gap := ⟨false, [], [], []⟩

/-- The text of a gap: blanks as they are, a single line break as a space, more without the
first of them. -/
def text (g : Gap) : List Char :=
  if g.broken then
    if g.first = ['\n'] then (if g.more = [] then [' '] else g.more)
    else g.first ++ g.more
  else g.blanks

/-- Extends a gap over blanks and line breaks.  No tab may stand before column `margin` of a
new line. -/
def extend? (margin : Nat) : Nat → Gap → Cursor → Option (Gap × Cursor)
  | 0, g, c => some (g, c)
  | n + 1, g, c =>
    match c.rest with
    | [] => some (g, c)
    | x :: _ =>
      if isBlank x then
        if g.broken then
          if x = '\t' ∧ c.column < margin then Option.none
          else extend? margin n g c.skip
        else extend? margin n { g with blanks := g.blanks ++ [x] } c.skip
      else if isBreak x then
        let (b, c) := c.skipBreak
        if g.broken then extend? margin n { g with more := g.more ++ b } c
        else extend? margin n ⟨true, [], b, g.more⟩ c
      else some (g, c)

end Gap

end Yaml

end PagePress
