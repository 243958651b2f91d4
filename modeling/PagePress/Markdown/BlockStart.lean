import PagePress.Markdown.HtmlTag

/-!
# How blocks start

Each function tells whether the rest of a line, after the containers and the indentation,
starts a kind of block.
-/

namespace PagePress

namespace Markdown

namespace BlockStart

/-! ## Headings -/

/-- The level of the heading that a run of number signs starts. -/
def heading? (cs : List Char) : Option Level :=
  match run '#' cs with
  | 0 => none
  | n + 1 =>
    let follows := match cs.drop (n + 1) with
      | [] => true
      | c :: _ => isSpacing c
    if h : n < 6 then if follows then some ⟨n, h⟩ else none else none

/-- The length and the level of the underline of a heading. -/
def underline? : List Char → Option (Nat × Level)
  | [] => none
  | c :: cs =>
    let n := run c (c :: cs)
    let line (level : Level) := (blankLine? ((c :: cs).drop n)).map fun k => (n + k, level)
    if c = '=' then line 0 else if c = '-' then line 1 else none

/-! ## Fences -/

/-- The mark and the length of the fence that opens a block of code. -/
def fence? : List Char → Option (Char × Nat)
  | [] => none
  | c :: cs =>
    if c = '\x60' || c = '~' then
      let n := run c (c :: cs)
      if n < 3 then none
      else
        let line := ((c :: cs).drop n).takeWhile (· != '\n')
        if c = '\x60' && line.contains '\x60' then none else some (c, n)
    else none

/-- The length of the fence that closes a block of code, with the blanks after it. -/
def closingFence? (mark : Char) (length : Nat) (cs : List Char) : Option Nat :=
  if cs.isEmpty then some 0
  else
    let n := run mark cs
    if n < length then none
    else
      let blanks := run ' ' (cs.drop n)
      if atLineEnd (cs.drop (n + blanks)) then some (n + blanks) else none

/-! ## Front matter -/

/-- The length of the line that closes front matter, with the blanks after it. -/
def closingFrontMatter? (cs : List Char) : Option Nat :=
  let n := run '-' cs
  if n = 3 || run '.' cs = 3 then
    let blanks := run ' ' (cs.drop 3)
    if atLineEnd (cs.drop (3 + blanks)) then some (3 + blanks) else none
  else none

/-- Whether a line closes front matter somewhere in the lines that follow; `atStart` tells
whether a line starts here. -/
def closesFrontMatter (atStart : Bool) : List Char → Bool
  | [] => false
  | c :: cs =>
    (atStart && (closingFrontMatter? (c :: cs)).isSome) || closesFrontMatter (c == '\n') cs

/-- Whether front matter starts here: three hyphens alone on a line, then a line that is
neither blank nor the end, and an end further on. -/
def frontMatter (cs : List Char) : Bool :=
  run '-' cs = 3 &&
    let n := lineLength (cs.drop 3)
    let line := (cs.drop 3).take n
    let body := (cs.drop 3).drop n
    line.all isSpacing && !isBlankLine body && (closingFrontMatter? body).isNone &&
      closesFrontMatter true body

/-! ## Tables -/

/-- What is read of a delimiter row. -/
structure Delimiters where
  /-- The alignments of the columns so far, in reverse. -/
  columns : List (Option Mdast.Align)
  /-- The alignment of the column being read. -/
  column : Option Mdast.Align
  /-- Whether nothing of the column is read. -/
  fresh : Bool
  /-- Whether a hyphen is read in the column. -/
  dashed : Bool
  anyPipe : Bool
  anyDash : Bool

namespace Delimiters

/-- The alignment after a colon. -/
def colon (fresh : Bool) (align : Option Mdast.Align) : Option Mdast.Align :=
  match fresh, align with
  | true, none => some .left
  | false, some .left => some .center
  | false, none => some .right
  | _, align => align

/-- Reads a character of the row; none if it does not belong there. -/
def step? (d : Delimiters) (c : Char) : Option Delimiters :=
  if c = ' ' then some d
  else if c = ':' then some { d with column := colon d.fresh d.column, fresh := false }
  else if c = '-' then some { d with fresh := false, dashed := true, anyDash := true }
  else if c = '|' then
    if d.dashed then
      some ⟨d.column :: d.columns, none, true, false, true, d.anyDash⟩
    else none
  else none

/-- Reads the characters of the row. -/
def steps? : Delimiters → List Char → Option Delimiters
  | d, [] => some d
  | d, c :: cs => (d.step? c).bind fun d => steps? d cs

/-- The alignments of all columns. -/
def finish? (d : Delimiters) : Option (List (Option Mdast.Align)) :=
  if d.anyPipe && d.anyDash then
    some ((if d.fresh then d.columns else d.column :: d.columns).reverse)
  else none

end Delimiters

/-- The length of the delimiter row of a table, with its line ending, and the alignments of
its columns. -/
def delimiterRow? (cs : List Char) : Option (Nat × List (Option Mdast.Align)) :=
  let (indent, m) := Margin.indent 4 ⟨cs, 0, 0, 0⟩
  if 3 < indent || m.rest.isEmpty then none
  else
    let isInLine (c : Char) := c != '\n' && c != '\r'
    let line := m.rest.takeWhile isInLine
    let opening := line.head? == some '|'
    let start : Delimiters := ⟨[], none, true, false, opening, false⟩
    match (start.steps? (if opening then line.tail else line)).bind Delimiters.finish? with
    | none => none
    | some aligns =>
      (lineEnding? (m.rest.drop line.length)).map fun n => (m.ix + line.length + n, aligns)

/-- The number of cells of a line with pipes: `pipes` of them, the last one `lastPipe`
characters into the line. -/
def columnCount (line : List Char) (pipes lastPipe : Nat) : Nat :=
  let pipes := if (line.dropWhile isGap).head? == some '|' then pipes - 1 else pipes
  if isBlankLine (line.drop (lastPipe + 1)) then pipes else pipes + 1

/-- The number of pipes of a line and the place of the last one, without those after a
backslash; with the length of the line and its ending, if it has one. -/
def pipesOf (escaped : Bool) (ix pipes lastPipe : Nat) : List Char → Option (Nat × Nat × Nat)
  | [] => none
  | c :: cs =>
    if c = '\n' || c = '\r' then
      (lineEnding? (c :: cs)).map fun n => (pipes, lastPipe, ix + n)
    else if c = '\\' then pipesOf true (ix + 1) pipes lastPipe cs
    else if c = '|' && !escaped then pipesOf false (ix + 1) (pipes + 1) ix cs
    else pipesOf false (ix + 1) pipes lastPipe cs

/-! ## Interruptions -/

/-- The mark and the number of a list item, and the rest of the line after its mark. -/
def listItem? (cs : List Char) : Option (Char × Nat × List Char) :=
  let marked (mark : Char) (number : Nat) (rest : List Char) :=
    let blank := match rest with
      | ' ' :: _ => true
      | '\t' :: _ => true
      | _ => atLineEnd rest
    if blank then some (mark, number, rest) else none
  match cs with
  | [] => none
  | c :: rest =>
    if c = '-' || c = '+' || c = '*' then marked c 0 rest
    else if c.isDigit then
      let digits := (cs.take 9).takeWhile Char.isDigit
      match cs.drop digits.length with
      | d :: rest =>
        if d = '.' || d = ')' then marked d (decimalValue digits) rest else none
      | [] => none
    else none

/-- Whether the rest of the line and the line after it are blank. -/
def twoBlankLines (cs : List Char) : Bool :=
  match blankLine? cs with
  | some n => isBlankLine (cs.drop n)
  | none => false

/-- Whether a line ends the paragraph before it.  `inside` tells whether the line belongs to
all open containers. -/
def interrupts (inside : Bool) (cs : List Char) : Bool :=
  atLineEnd cs
    || (thematicBreak? cs).isSome
    || (heading? cs).isSome
    || (fence? cs).isSome
    || cs.head? == some '>'
    || (match listItem? cs with
      | some (mark, number, rest) =>
        !inside
          || ((mark == '*' || mark == '-' || mark == '+' || number == 1) && !twoBlankLines rest)
      | none => false)
    || (match cs with
      | '<' :: rest => (HtmlTag.blockEnd? rest).isSome || HtmlTag.opensBlock rest
      | _ => false)

end BlockStart

end Markdown

end PagePress
