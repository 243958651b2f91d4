import PagePress.Markdown.Flow
import PagePress.Markdown.Tree

/-!
# Reading a document

* `Reader.block` reads one block, or the start of one, from the start of a line;
* `Reader.document` reads all blocks of a text;
* `events` lists the events of a text, and `parse` is its markdown tree.
-/

namespace PagePress

namespace Markdown

namespace Reader

open Markdown.Flow (chunks lineEnd)

/-- What is read, and the place of the next line. -/
abbrev Step := Flow × Nat

/-! ## Headings -/

/-- The end of the text of a heading of the given characters: a closing run of number signs
does not count. -/
def headingStop (cs : List Char) : Nat :=
  let isPadding (c : Char) := c = '\n' || c = '\r' || c = ' '
  let limit := cs.length - countAtEnd isPadding cs
  let closer := limit - countAtEnd (· == '#') (cs.take limit)
  if closer = 0 then 0
  else
    let blanks := countAtEnd (· == ' ') (cs.take closer)
    if 0 < blanks then closer - blanks else limit

/-- Sets the end of the last piece, where pieces are in reverse. -/
def stopLast (stop : Nat) : List Piece → List Piece
  | [] => []
  | p :: ps => { p with stop := stop } :: ps

/-- Reads a heading that starts with number signs. -/
def heading (s : Source) (f : Flow) (start : Nat) (level : Level) : Step :=
  let ix := start + level.val + 1
  match lineEnding? (s.drop ix) with
  | some n => (f.push (.leaf (.heading level []) start (ix + n)), ix + n)
  | none =>
    let text := ix + countWhile isGap (s.drop ix)
    let line := scanLine s .flow text s.size
    let pieces := match line.lineBreak with
      | some ⟨.hardBreak true, at_, _⟩ => ⟨.plain, at_, at_ + 1⟩ :: line.pieces
      | _ => line.pieces
    let pieces := stopLast (text + headingStop (s.slice text line.next)) pieces
    (f.push (.leaf (.heading level pieces.reverse) start line.next), line.next)

/-! ## Code -/

/-- Reads the lines of fenced code up to its closing fence; the last result is the end of the
block and the place of the next line.  `fuel` bounds the number of lines. -/
def fencedLines (s : Source) (cs : List Container) (indent : Nat) (mark : Char) (length : Nat) :
    Nat → Nat → List Chunk → List Chunk × Nat × Nat
  | 0, ix, acc => (acc, ix, ix)
  | fuel + 1, ix, acc =>
    let (inside, m) := passAllContainers cs (.start s ix)
    if !inside then (acc, ix, ix)
    else
      let m := (m.pass indent).2
      let (missing, closing) := m.pass (4 - indent)
      match if missing = 0 then none else BlockStart.closingFence? mark length closing.rest with
      | some n =>
        let stop := closing.ix + n
        (acc, stop, stop + (blankLine? (s.drop stop)).getD 0)
      | none =>
        let next := lineEnd s m.ix
        fencedLines s cs indent mark length fuel next (acc ++ chunks s m.pending m.ix next)

/-- Reads fenced code. -/
def fencedCode (s : Source) (f : Flow) (start indent : Nat) (mark : Char) (length : Nat) :
    Step :=
  let info := start + length + countWhile isGap (s.drop (start + length))
  let next := lineEnd s info
  let text := s.slice info next
  let info := Link.unescape false (text.take (text.length - countAtEnd isSpacing text))
  let (lines, stop, next) := fencedLines s f.containers indent mark length (s.size + 1) next []
  (f.push (.leaf (.code (some info) lines) start stop), next)

/-- Reads the lines of indented code.  `kept` holds the chunks up to the last line that is not
blank, `stop` its end; the last results are the place of the next line and whether the line
before it is blank. -/
def indentedLines (s : Source) (cs : List Container) :
    Nat → Nat → Nat → Bool → List Chunk → List Chunk → Nat → List Chunk × Nat × Nat × Bool
  | 0, ix, _, blank, kept, _, stop => (kept, stop, ix, blank)
  | fuel + 1, ix, pending, blank, kept, blanks, stop =>
    let next := lineEnd s ix
    let line := chunks s pending ix next
    let (kept, blanks, stop) :=
      if blank then (kept, blanks ++ line, stop) else (kept ++ blanks ++ line, [], next)
    let (inside, m) := passAllContainers cs (.start s next)
    let (missing, m) := m.pass 4
    if !inside || !(missing = 0 || m.atEnd) || m.ix = s.size then (kept, stop, next, blank)
    else
      indentedLines s cs fuel m.ix m.pending (isBlankLine m.rest) kept blanks stop

/-- Reads indented code. -/
def indentedCode (s : Source) (f : Flow) (start pending : Nat) : Step :=
  let (lines, stop, next, blank) :=
    indentedLines s f.containers (s.size + 1) start pending false [] [] start
  ({ f with afterBlank := blank }.push (.leaf (.code none lines) start stop), next)

/-! ## HTML -/

/-- Reads the lines of a block of HTML.  `ends` tells which line is the last; `stops` is the
end of the block if the next line, given by its start and its margin, does not belong to it.
The last results are the end of the block and the place of the
next line. -/
def htmlLines (s : Source) (cs : List Container) (ends : List Char → Bool)
    (stops : Nat → Margin → Option Nat) :
    Nat → Nat → Nat → List Chunk → List Chunk × Nat × Nat
  | 0, ix, _, acc => (acc, ix, ix)
  | fuel + 1, ix, pending, acc =>
    let next := lineEnd s ix
    let acc := acc ++ chunks s pending ix next
    let (inside, m) := passAllContainers cs (.start s next)
    if !inside || ends (s.slice ix next) then (acc, next, next)
    else
      match stops next m with
      | some stop => (acc, stop, next)
      | none => htmlLines s cs ends stops fuel m.ix m.pending acc

/-- Reads a block of HTML that ends with the line that holds a text. -/
def htmlThrough (s : Source) (f : Flow) (start indent : Nat) (stopText : String) : Step :=
  let ends (line : List Char) := (Text.find? stopText.toList line).isSome
  let stops (_ : Nat) (m : Margin) := if m.ix = s.size then some m.ix else none
  let (lines, stop, next) :=
    htmlLines s f.containers ends stops (s.size + 1) start indent []
  (f.push (.leaf (.html lines) start stop), next)

/-- Reads a block of HTML that ends at a blank line. -/
def htmlToBlank (s : Source) (f : Flow) (start indent : Nat) : Step :=
  let stops (lineStart : Nat) (m : Margin) :=
    if m.atEnd then some lineStart
    else if m.ix = s.size || isBlankLine m.rest then some m.ix
    else none
  let (lines, stop, next) :=
    htmlLines s f.containers (fun _ => false) stops (s.size + 1) start indent []
  (f.push (.leaf (.html lines) start stop), next)

/-! ## Front matter -/

/-- Reads the lines of front matter; the last result is the end of the block. -/
def frontMatterLines (s : Source) (cs : List Container) :
    Nat → Nat → List Chunk → List Chunk × Nat
  | 0, ix, acc => (acc, ix)
  | fuel + 1, ix, acc =>
    let (inside, m) := passAllContainers cs (.start s ix)
    if !inside then (acc, ix)
    else
      let indented := ((Margin.start s ix).indent 4).1 != 0
      match if indented then none else BlockStart.closingFrontMatter? (s.drop ix) with
      | some n => (acc, ix + n)
      | none =>
        let next := lineEnd s m.ix
        if next = ix then (acc, ix)
        else frontMatterLines s cs fuel next (acc ++ chunks s m.pending m.ix next)

/-- Reads front matter. -/
def frontMatter (s : Source) (f : Flow) (start : Nat) : Step :=
  let (lines, stop) := frontMatterLines s f.containers (s.size + 1) (lineEnd s (start + 3)) []
  (f.push (.leaf (.metadata lines) start stop), stop + (blankLine? (s.drop stop)).getD 0)

/-! ## Tables -/

/-- Reads the cells of a row; the last result is the place after the line ending.  `fuel` bounds
the number of cells. -/
def cells (s : Source) : Nat → Nat → List Cell → List Cell × Nat
  | 0, ix, acc => (acc, ix)
  | fuel + 1, ix, acc =>
    let start := if s.at? ix == some '|' then ix + 1 else ix
    let text := start + countWhile isGap (s.drop start)
    match lineEnding? (s.drop text) with
    | some n => (acc, text + n)
    | none =>
      let line := scanLine s .cell text s.size
      cells s fuel line.next (acc ++ [⟨line.pieces.reverse, start, line.next⟩])

/-- Reads a row with so many columns: what is missing is empty, what is left over is dropped. -/
def row? (s : Source) (columns start : Nat) : Option Row :=
  let (found, stop) := cells s (s.size + 1) start []
  if found.isEmpty then none
  else
    let missing := List.replicate (columns - found.length) ⟨[], stop, stop⟩
    some ⟨found.take columns ++ missing, start, stop⟩

/-- Reads the rows after the first; the last result is the place of the next line. -/
def rows (s : Source) (cs : List Container) (columns : Nat) :
    Nat → Nat → List Row → List Row × Nat
  | 0, ix, acc => (acc, ix)
  | fuel + 1, ix, acc =>
    let (inside, m) := passAllContainers cs (.start s ix)
    let m := m.passAll
    if !inside || BlockStart.interrupts false m.rest || (Flow.footnoteMark? m.rest).isSome then
      (acc, ix)
    else
      match row? s columns m.ix with
      | some r => rows s cs columns fuel r.stop (acc ++ [r])
      | none => (acc, ix)

/-- Reads a table whose second line ends at `body`. -/
def table (s : Source) (f : Flow) (start body : Nat) (align : List (Option Mdast.Align)) :
    Step :=
  let head := (row? s align.length start).toList
  let (body, next) := rows s f.containers align.length (s.size + 1) body []
  (f.push (.leaf (.table align (head ++ body)) start next), next)

/-! ## Paragraphs -/

/-- How a paragraph ends. -/
inductive Ending where
  /-- At the place of the next line. -/
  | plain (next : Nat)
  /-- With the underline of a heading. -/
  | underline (level : Level) (next : Nat)

/-- A backslash that would have been a line break, as text. -/
def breakText : Option Piece → List Piece
  | some ⟨.hardBreak true, start, _⟩ => [⟨.plain, start, start + 1⟩]
  | _ => []

/-- Reads the lines of a paragraph from `ix` on; the pieces are in reverse.  `fuel` bounds the
number of lines. -/
def paragraphLines (s : Source) (f : Flow) : Nat → Nat → List Piece → List Piece × Ending
  | 0, ix, acc => (acc, .plain ix)
  | fuel + 1, ix, acc =>
    let line := scanLine s .flow ix s.size
    let acc := line.pieces ++ acc
    let (inside, m) := passAllContainers f.containers (.start s line.next)
    let (missing, m) := m.pass 4
    let ended := breakText line.lineBreak ++ acc
    match if missing = 0 || !inside then none else BlockStart.underline? m.rest with
    | some (n, level) => (ended, .underline level (m.ix + n))
    | none =>
      if missing != 0 && Flow.interrupts f.containers inside m.rest then
        (ended, .plain line.next)
      else
        let m := m.passAll
        if m.atEnd then (ended, .plain line.next)
        else paragraphLines s f fuel m.ix (line.lineBreak.toList ++ acc)

/-- Reads a paragraph, a table or a heading with an underline. -/
def paragraph (s : Source) (f : Flow) (start : Nat) : Step :=
  let f := f.closeList start
  let line := scanLine s .flow start s.size
  let head := match line.lineBreak with
    | none => none
    | some ⟨.hardBreak true, _, _⟩ => none
    | some _ =>
      let n := (lineEnding? (s.drop line.lineStop)).getD 0
      Flow.tableHead? f.containers (s.drop start) line.pipes (line.lastPipe - start)
        (line.lineStop - start + n)
  match head with
  | some (align, n) => table s f start (start + n) align
  | none =>
    let (pieces, ending) := paragraphLines s f (s.size + 1) start []
    let pieces := pieces.reverse
    match ending with
    | .plain next => (f.push (.leaf (.paragraph false pieces) start next), next)
    | .underline level next => (f.push (.leaf (.heading level pieces) start next), next)

/-! ## Definitions of labels -/

/-- The room that the margin of a next line takes up, none if the paragraph ends before it. -/
def lineWidth? (cs : List Container) (line : List Char) : Option Nat :=
  let (inside, m) := passAllContainers cs ⟨line, 0, 0, 0⟩
  if Flow.interrupts cs inside m.rest || (inside && (BlockStart.underline? m.rest).isSome) then
    none
  else some m.ix

/-- Reads spacing between the parts of a definition, with at most one line ending; the second
result tells how many there are.  `fuel` bounds the number of lines. -/
def definitionSpace? (cs : List Container) : Nat → List Char → Option (Nat × Nat)
  | 0, _ => none
  | fuel + 1, text =>
    let n := countWhile isGap text
    match lineEnding? (text.drop n) with
    | none => some (n, 0)
    | some k =>
      let (inside, m) := passAllContainers cs ⟨text.drop (n + k), 0, 0, 0⟩
      let (missing, m) := m.pass 4
      if missing != 0
          && (Flow.interrupts cs inside m.rest || (BlockStart.underline? m.rest).isSome) then
        none
      else
        match definitionSpace? cs fuel m.rest with
        | some (n', breaks) => if breaks = 0 then some (n + k + m.ix + n', 1) else none
        | none => none

/-- Reads the rest of the title of a definition; the next `skip` characters are read already.
The second result is the number of characters read. -/
def definitionTitleFrom? (cs : List Container) (stop : Char) :
    Nat → List Char → Option (List Char × Nat)
  | _, [] => none
  | skip + 1, _ :: text =>
    (definitionTitleFrom? cs stop skip text).map fun r => (r.1, r.2 + 1)
  | 0, c :: text =>
    let next (out : List Char) (skip : Nat) :=
      (definitionTitleFrom? cs stop skip text).map fun r => (out ++ r.1, r.2 + 1)
    if c = stop then some ([], 1)
    else if c = '(' && stop = ')' then none
    else if c = '\n' || c = '\r' then
      let n := (lineEnding? (c :: text)).getD 1
      let (inside, m) := passAllContainers cs ⟨text.drop (n - 1), 0, 0, 0⟩
      let (missing, m) := m.pass 4
      if missing != 0
          && (Flow.interrupts cs inside m.rest || (BlockStart.underline? m.rest).isSome) then
        none
      else
        let m := m.passAll
        if isBlankLine m.rest then none else next ['\n'] (n - 1 + m.ix)
    else if c = '\\' then
      match text with
      | d :: _ => if d = '\n' || d = '\r' then next [c] 0 else next [c, d] 1
      | [] => none
    else next [c] 0

/-- Reads the title of a definition. -/
def definitionTitle? (cs : List Container) (text : List Char) : Option (String × Nat) := do
  let stop ← Link.titleEnd? text
  let (title, n) ← definitionTitleFrom? cs stop 0 text.tail
  some (Link.unescape false title, n + 1)

/-- Reads what a label stands for, after its colon; the second result is the number of
characters read. -/
def definitionTarget? (cs : List Container) (text : List Char) : Option (Definition × Nat) := do
  let (a, _) ← definitionSpace? cs 3 text
  let (url, n) ← Link.destination? 1 (text.drop a)
  guard (n != 0)
  let url := Link.unescape false url
  let b := a + n
  let bare : Definition × Nat := (⟨url, ""⟩, b)
  match definitionSpace? cs 3 (text.drop b) with
  | none => some bare
  | some (k, breaks) =>
    let breaks := if (text.drop b).isEmpty then breaks + 1 else breaks
    if k = 0 && breaks = 0 then none
    else if 1 < breaks then some bare
    else
      match definitionTitle? cs (text.drop (b + k)) with
      | some (title, n) =>
        if isBlankLine (text.drop (b + k + n)) then some (⟨url, title⟩, b + k + n)
        else if 0 < breaks then some bare
        else none
      | none => if 0 < breaks then some bare else none

/-- Reads a definition; the last result is the number of characters read. -/
def definition? (cs : List Container) (text : List Char) :
    Option (String × Definition × Nat) :=
  match text with
  | '[' :: rest => do
    let (label, n) ← Link.label? false (lineWidth? cs) rest
    guard ((rest.drop n).head? == some ':')
    let (d, k) ← definitionTarget? cs (rest.drop (n + 1))
    some (Link.key label, d, n + k + 2)
  | _ => none

/-- Records what a label stands for, unless it has a meaning already. -/
def define (f : Flow) (key : String) (d : Definition) : Flow :=
  if f.definitions.contains key then f
  else { f with definitions := f.definitions.insert key d }

/-- Reads definitions and the paragraph after them, if there is one.  `fuel` bounds the number
of definitions. -/
def definitions (s : Source) : Nat → Flow → Nat → Margin → Step
  | 0, f, _, m => paragraph s f m.ix
  | fuel + 1, f, lineStart, m =>
    match definition? f.containers m.rest with
    | none => paragraph s f m.ix
    | some (key, d, n) =>
      let f := define f key d
      let ix := m.ix + n
      let ix := ix + (blankLine? (s.drop ix)).getD 0
      let (continued, m) := f.continues (.start s ix)
      if continued then definitions s fuel f ix m else (f.closeList lineStart, ix)

/-! ## Leaves -/

/-- Reads a block without blocks inside, after the containers of its first line. -/
def leaf (s : Source) (f : Flow) (lineStart : Nat) (m : Margin) : Step :=
  let pending := m.pending
  let (indent, m) := m.indent 4
  let closed := f.closeList lineStart
  let ix := m.ix
  let afterAngle := match m.rest with
    | '<' :: rest => some rest
    | _ => none
  if indent = 4 then indentedCode s closed ix m.pending
  else if indent = 0 && BlockStart.frontMatter m.rest then frontMatter s closed ix
  else
    match afterAngle >>= HtmlTag.blockEnd? with
    | some stop => htmlThrough s closed ix (max pending indent) stop
    | none =>
      if afterAngle.any fun rest => HtmlTag.opensBlock rest || HtmlTag.standsAlone rest then
        htmlToBlank s closed ix (max pending indent)
      else
        match thematicBreak? m.rest, BlockStart.heading? m.rest, BlockStart.fence? m.rest with
        | some n, _, _ => (closed.push (.leaf .rule ix (ix + n)), ix + n)
        | none, some level, _ => heading s closed ix level
        | none, none, some (mark, n) => fencedCode s closed ix indent mark n
        | none, none, none => definitions s (s.size + 1) f lineStart m

/-! ## Containers -/

/-- What comes of reading the containers that a line opens: a line to go on with, or nothing
left of the line. -/
inductive Opening where
  | line (f : Flow) (lineStart : Nat) (m : Margin)
  | done (f : Flow) (next : Nat)

/-- Reads a list mark.  What stands behind a checkbox is a paragraph. -/
def openItem (s : Source) (f : Flow) (lineStart start : Nat) (mark : Char)
    (number indent : Nat) (m : Margin) : Opening :=
  let f := (f.openList start mark number).openContainer (.item indent) start
  match blankLine? m.rest with
  | some n => .done { f with blankItem := some (m.ix + n) } (m.ix + n)
  | none =>
    match m.taskMark? with
    | none => .line f lineStart m
    | some (checked, after) =>
      let f := f.push (.leaf (.task checked) m.ix after.ix)
      match blankLine? after.rest with
      | some n => .done { f with blankItem := some (after.ix + n) } (after.ix + n)
      | none =>
        let (f, next) := paragraph s f after.passAll.ix
        .done f next

/-- Reads the mark of a block quote; the flag tells whether more containers may follow. -/
def openQuote (s : Source) (f : Flow) (lineStart start : Nat) (m : Margin) : Bool × Opening :=
  let f := (f.closeList lineStart).openContainer .quote start
  match m.alertMark? with
  | none => (true, .line f lineStart m)
  | some after =>
    let (continued, m) := f.continues (.start s after.ix)
    (false, if continued then .line f after.ix m else .done f after.ix)

/-- Reads the mark that starts a footnote; the last result is the place after it. -/
def openFootnote? (s : Source) (f : Flow) (start : Nat) : Option Step :=
  match Flow.footnoteMark? (s.drop start) with
  | none => none
  | some (label, n) =>
    if label.toList.any isSpacing then none
    else
      let f := f.closeList start
      let f := match f.opened with
        | ⟨.footnote _, _, _⟩ :: _ => f.close start
        | _ => f
      let f := { f with footnotes := Link.key label :: f.footnotes }
      let next := start + n
      some (f.openContainer (.footnote label) start, next + countWhile isGap (s.drop next))

/-- Reads the containers that a line opens.  `fuel` bounds their number. -/
def openContainers (s : Source) : Nat → Flow → Nat → Margin → Opening
  | 0, f, lineStart, m => .line f lineStart m
  | fuel + 1, f, lineStart, m =>
    let (indent, inner) := m.indent 4
    if indent = 4 then .line f lineStart m
    else
      match openFootnote? s f inner.ix with
      | some (f, next) => openContainers s fuel f next (.start s next)
      | none =>
        match inner.listMark? indent with
        | some ((mark, number, content), after) =>
          match openItem s f lineStart (inner.ix - indent) mark number content after with
          | .line f lineStart m => openContainers s fuel f lineStart m
          | done => done
        | none =>
          match inner.quoteMark? with
          | some after =>
            match openQuote s f lineStart inner.ix after with
            | (true, .line f lineStart m) => openContainers s fuel f lineStart m
            | (_, opening) => opening
          | none => .line f lineStart m

/-! ## Documents -/

/-- Reads a block, or the start of one, from the start of a line. -/
def block (s : Source) (f : Flow) (start : Nat) : Step :=
  let (n, m) := passContainers f.containers (.start s start)
  let f := f.closeTo n start
  match openContainers s (s.size + 1) f start m with
  | .done f next => (f, next)
  | .line f lineStart m =>
    match blankLine? m.rest with
    | some n => (f.blankLine, m.ix + n)
    | none => leaf s f lineStart m

/-- Reads blocks up to the end of the text.  `fuel` bounds their number. -/
def blocks (s : Source) : Nat → Flow → Nat → Flow
  | 0, f, ix => f.closeTo 0 ix
  | fuel + 1, f, ix =>
    if s.size ≤ ix then f.closeTo 0 ix
    else
      let (f, next) := block s f ix
      blocks s fuel f next

/-- Reads a text. -/
def document (s : Source) : Flow := blocks s (s.size + 1) .start 0

end Reader

/-- The events of a text. -/
def events (text : String) : List Located :=
  let s := Source.ofText text
  let f := Reader.document s
  Document.blocksEvents ⟨s, f.definitions, f.footnotes⟩ [] f.blocks.reverse

/-- The markdown tree of a text. -/
def parse (text : String) : Mdast.Node := treeOf text (events text)

end Markdown

end PagePress
