import PagePress.Markdown.Source
import PagePress.Text.Blank
import PagePress.Text.Case
import PagePress.Text.Entity

/-!
# Pieces of a line

A line of text is cut into pieces: stretches of plain text, entities, line breaks, and the marks
that may turn out to be emphasis, code, links or HTML once the whole block is known.

* `Piece` is a piece at its place;
* `scanLine` cuts up one line, or one cell of a table row.
-/

namespace PagePress

namespace Markdown

/-- What a piece is. -/
inductive Mark where
  /-- Text as it stands. -/
  | plain
  /-- A stretch that stands for another text. -/
  | standsFor (s : String)
  | softBreak
  /-- A line break asked for by a backslash or by blanks. -/
  | hardBreak (backslash : Bool)
  /-- A run of emphasis marks that may open or close. -/
  | run (mark : Char) (count : Nat) (opens closes : Bool)
  /-- A run of backticks; a backslash before it takes the first of them. -/
  | ticks (count : Nat) (escaped : Bool)
  /-- An opening angle bracket. -/
  | angle
  /-- An opening bracket, with an exclamation mark for an image. -/
  | bracket (image : Bool)
  /-- A closing bracket, and whether a reference may end here. -/
  | closing (fresh : Bool)
deriving DecidableEq, Repr

/-- A piece from one place of the text up to another. -/
structure Piece where
  mark : Mark
  start : Nat
  stop : Nat
deriving DecidableEq, Repr

/-- Where a line stands. -/
inductive LineMode where
  /-- In running text. -/
  | flow
  /-- In a row of a table, where a pipe ends the cell. -/
  | cell
deriving DecidableEq, Repr

/-! ## Runs of emphasis marks -/

/-- What stands around a run. -/
structure Around where
  before : Option Char
  beforeThat : Option Char
  after : Option Char

/-- Whether the run follows the pipe before a cell. -/
def Around.afterPipe (a : Around) : Bool := a.before == some '|' && a.beforeThat != some '\\'

/-- Whether runs of a mark work inside words. -/
def worksInWords (mark : Char) (count : Nat) : Bool := mark = '*' || (mark = '~' && 1 < count)

/-- Whether a run may open emphasis. -/
def opensEmphasis (mode : LineMode) (mark : Char) (count : Nat) (a : Around) : Bool :=
  match a.after, a.before with
  | none, _ => false
  | some after, before =>
    if Text.isBlank after then false
    else
      match before with
      | none => true
      | some before =>
        if mode = .cell && a.afterPipe then true
        else if mode = .cell && after = '|' then false
        else if worksInWords mark count && !Text.isPunct after then true
        else if mark = '~' && before = '~' && !Text.isPunct after then true
        else Text.isBlank before || Text.isPunct before

/-- Whether a run may close emphasis. -/
def closesEmphasis (mode : LineMode) (mark : Char) (count : Nat) (a : Around) : Bool :=
  match a.before, a.after with
  | none, _ => false
  | some before, after =>
    if Text.isBlank before then false
    else
      match after with
      | none => true
      | some after =>
        if mode = .cell && a.afterPipe then false
        else if mode = .cell && after = '|' then true
        else if worksInWords mark count && !Text.isPunct before then true
        else if mark = '~' && before = '~' then true
        else Text.isBlank after || Text.isPunct after

/-! ## Cutting up a line -/

/-- What is read of a line. -/
structure LineScan where
  /-- The pieces read, in reverse. -/
  pieces : List Piece
  /-- The place from where on text is still to be added. -/
  textStart : Nat
  /-- The number of pipes in running text and the place of the last one. -/
  pipes : Nat
  lastPipe : Nat

namespace LineScan

/-- Adds the text up to a place. -/
def flush (l : LineScan) (stop : Nat) : LineScan :=
  if l.textStart < stop then
    { l with pieces := ⟨.plain, l.textStart, stop⟩ :: l.pieces, textStart := stop }
  else l

/-- Adds the text up to a piece and the piece. -/
def add (l : LineScan) (p : Piece) (textStop : Nat) : LineScan :=
  let l := l.flush textStop
  { l with pieces := p :: l.pieces, textStart := p.stop }

end LineScan

/-- A line cut into pieces. -/
structure ScannedLine where
  /-- The pieces, in reverse. -/
  pieces : List Piece
  /-- The place after the line ending, or the place where the cell or the text ends. -/
  next : Nat
  /-- The break that stands between this line and the next. -/
  lineBreak : Option Piece
  pipes : Nat
  lastPipe : Nat
  /-- The place where the characters of the line end. -/
  lineStop : Nat

/-- The line as read, with a break. -/
def LineScan.done (l : LineScan) (next : Nat) (lineBreak : Option Piece) (lineStop : Nat) :
    ScannedLine :=
  ⟨l.pieces, next, lineBreak, l.pipes, l.lastPipe, lineStop⟩

/-- The end of a cell or of the text at `ix`: gaps before it do not count. -/
def LineScan.finish (s : Source) (l : LineScan) (ix : Nat) : ScannedLine :=
  let gaps := countAtEnd isGap (s.slice l.textStart ix)
  (l.flush (ix - gaps)).done ix none ix

/-- The end of a line of running text at `ix`, before a line ending of `n` characters. -/
def LineScan.endLine (s : Source) (start limit : Nat) (l : LineScan) (ix n : Nat) :
    ScannedLine :=
  let line := s.slice start ix
  let next := ix + n
  let gaps := countAtEnd isGap line
  if countAtEnd (· == '\\') line % 2 = 1 && next < limit then
    (l.flush (ix - 1)).done next (some ⟨.hardBreak true, ix - 1, next⟩) ix
  else if 2 ≤ gaps then
    (l.flush (ix - gaps)).done next (some ⟨.hardBreak false, ix - gaps, next⟩) ix
  else (l.flush (ix - gaps)).done next (some ⟨.softBreak, ix, next⟩) ix

/-- Reads a backslash at `ix`; the second result is the number of further characters that are
read with it. -/
def LineScan.backslash (mode : LineMode) (l : LineScan) (ix : Nat) (rest : List Char) :
    LineScan × Nat :=
  match rest with
  | [] => (l, 0)
  | c :: after =>
    if !Text.isAsciiPunct c then (l, 0)
    else if c = '\x60' then
      let count := run '\x60' rest
      (l.add ⟨.ticks count true, ix + 1, ix + 1 + count⟩ ix, count)
    else if mode = .cell && c = '\\' && after.head? == some '|' then
      ({ l.flush ix with textStart := ix + 2 }, 2)
    else ({ l.flush ix with textStart := ix + 1 }, 1)

/-- Reads a run of emphasis marks at `ix`. -/
def LineScan.emphasis (s : Source) (mode : LineMode) (l : LineScan) (ix : Nat) (c : Char)
    (rest : List Char) : LineScan × Nat :=
  let count := run c rest + 1
  let around : Around :=
    ⟨s.before? ix, if ix = 0 then none else s.before? (ix - 1), s.at? (ix + count)⟩
  let opens := opensEmphasis mode c count around
  let closes := closesEmphasis mode c count around
  if (opens || closes) && (c != '~' || count ≤ 2) then
    (l.add ⟨.run c count opens closes, ix, ix + count⟩ ix, count - 1)
  else (l, count - 1)

/-- Reads a character at `ix`; the second result is the number of further characters that are
read with it. -/
def LineScan.step (s : Source) (mode : LineMode) (l : LineScan) (ix : Nat) (c : Char)
    (rest : List Char) : LineScan × Nat :=
  let one (m : Mark) : LineScan × Nat := (l.add ⟨m, ix, ix + 1⟩ ix, 0)
  match c with
  | '\\' => l.backslash mode ix rest
  | '*' => l.emphasis s mode ix c rest
  | '_' => l.emphasis s mode ix c rest
  | '~' => l.emphasis s mode ix c rest
  | '\x60' =>
    let count := run c rest + 1
    (l.add ⟨.ticks count false, ix, ix + count⟩ ix, count - 1)
  | '<' => if rest.head? == some '\\' then (l, 0) else one .angle
  | '!' =>
    if rest.head? == some '[' then (l.add ⟨.bracket true, ix, ix + 2⟩ ix, 1) else (l, 0)
  | '[' => one (.bracket false)
  | ']' => one (.closing true)
  | '&' =>
    match Text.Entity.read? (c :: rest) with
    | some (t, n) => (l.add ⟨.standsFor t, ix, ix + n⟩ ix, n - 1)
    | none => (l, 0)
  | '|' =>
    if s.before? ix == some '\\' then (l, 0)
    else ({ l with pipes := l.pipes + 1, lastPipe := ix }, 0)
  | _ => (l, 0)

/-- Cuts up the characters from `ix` on, where the next `skip` of them are read already. -/
def scanFrom (s : Source) (mode : LineMode) (start limit : Nat) :
    Nat → LineScan → Nat → List Char → ScannedLine
  | _, l, ix, [] => l.finish s ix
  | skip + 1, l, ix, _ :: cs => scanFrom s mode start limit skip l (ix + 1) cs
  | 0, l, ix, c :: cs =>
    if c = '\n' || c = '\r' then
      if mode = .cell then l.finish s ix
      else l.endLine s start limit ix ((lineEnding? (c :: cs)).getD 1)
    else if mode = .cell && c = '|' && s.before? ix != some '\\' then l.finish s ix
    else
      let (l, skip) := l.step s mode ix c cs
      scanFrom s mode start limit skip l (ix + 1) cs

/-- Cuts up a line from `start` on, of the text before `limit`. -/
def scanLine (s : Source) (mode : LineMode) (start limit : Nat) : ScannedLine :=
  scanFrom s mode start limit 0 ⟨[], start, 0, start⟩ start (s.slice start limit)

end Markdown

end PagePress
