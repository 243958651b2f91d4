import PagePress.Markdown.HtmlTag
import PagePress.Markdown.Inline
import PagePress.Markdown.Link

/-!
# Links, code spans and HTML in a line

`resolve` turns the pieces of a block into inline nodes.  It reads them from left to right,
keeps the brackets that are open, and decides at each closing bracket whether it ends a link, an
image or the reference to a footnote.  Code spans, addresses and tags are found as they come.
-/

namespace PagePress

namespace Markdown

/-- What a reference stands for. -/
structure Definition where
  url : String
  title : String
deriving DecidableEq, Repr

/-- What is known about the block that holds a line. -/
structure Scope where
  source : Source
  /-- The end of the block. -/
  limit : Nat
  /-- The containers of the block, from the outside in. -/
  containers : List Container
  inTable : Bool
  /-- What labels stand for. -/
  definitions : Dict Definition
  /-- The labels of footnotes. -/
  footnotes : List String

namespace Scope

/-- The characters of the block from a place on. -/
def drop (sc : Scope) (ix : Nat) : List Char := sc.source.slice ix sc.limit

/-- The room that containers take up at the start of a line. -/
def margin (sc : Scope) (line : List Char) : Nat := containerWidth sc.containers line

/-- The room that containers and indentation take up at the start of a line. -/
def indentation (sc : Scope) (line : List Char) : Nat :=
  (passContainers sc.containers ⟨line, 0, 0, 0⟩).2.passAll.ix

/-! ## Code spans -/

/-- The content of a code span: a line ending with the margin after it is a blank.  The next
`skip` characters are read already. -/
def codeChars (sc : Scope) : Nat → List Char → List Char
  | _, [] => []
  | skip + 1, _ :: cs => codeChars sc skip cs
  | 0, c :: cs =>
    if c = '\n' || c = '\r' then ' ' :: codeChars sc (sc.margin cs) cs
    else if c = '\\' && sc.inTable && cs.head? == some '|' then '|' :: codeChars sc 1 cs
    else c :: codeChars sc 0 cs

/-- Drops one blank at each end, if both are there and something else is. -/
def dropPadding (cs : List Char) : List Char :=
  if cs.head? == some ' ' && cs.getLast? == some ' ' && !cs.all (· == ' ') then
    cs.tail.dropLast
  else cs

/-- The code between two runs of backticks. -/
def code (sc : Scope) (start stop : Nat) : String :=
  String.ofList (dropPadding (sc.codeChars 0 (sc.source.slice start stop)))

/-! ## Targets of links -/

/-- The number of characters of spacing around the parts of a link, with at most one line
ending. -/
def separator (sc : Scope) (cs : List Char) : Nat :=
  let n := countWhile isGap cs
  match lineEnding? (cs.drop n) with
  | none => n
  | some k =>
    let line := cs.drop (n + k)
    let m := sc.margin line
    n + k + m + countWhile isGap (line.drop m)

/-- How many parentheses may stand inside each other in the destination of a link. -/
def mostParentheses : Nat := 5

/-- Reads a destination and a title between parentheses; the second result is the place after
them. -/
def inlineTarget? (sc : Scope) (ix : Nat) : Option (Definition × Nat) := do
  let cs := sc.drop ix
  guard (cs.head? == some '(')
  let a := 1 + sc.separator cs.tail
  let (url, n) ← Link.destination? mostParentheses (cs.drop a)
  let b := a + n
  let b := b + sc.separator (cs.drop b)
  let (title, c) :=
    match Link.title? sc.inTable sc.indentation (cs.drop b) with
    | some (title, n) =>
      let c := b + n
      (String.ofList title, c + sc.separator (cs.drop c))
    | none => ("", b)
  guard ((cs.drop c).head? == some ')')
  some (⟨Link.unescape sc.inTable url, title⟩, ix + c + 1)

/-- A label between brackets. -/
inductive Label where
  | reference (label : String)
  | footnote (label : String)

/-- Reads a label with its brackets; the second result is its length. -/
def label? (sc : Scope) (cs : List Char) : Option (Label × Nat) :=
  match cs with
  | '[' :: rest =>
    let footnote := match rest with
      | '^' :: inner =>
        if inner.head? == some ']' then none
        else (Link.label? sc.inTable (fun _ => none) inner).map fun (r : String × Nat) =>
          (Label.footnote r.1, r.2 + 2)
      | _ => none
    footnote.or <|
      (Link.label? sc.inTable (fun line => some (sc.margin line)) rest).map
        fun (r : String × Nat) => (Label.reference r.1, r.2 + 1)
  | _ => none

/-! ## Open brackets -/

/-- A bracket that is open, and the parts after it, in reverse. -/
structure OpenBracket where
  image : Bool
  /-- Whether a link may start here. -/
  live : Bool
  start : Nat
  stop : Nat
  after : List Part

/-- The open brackets, innermost first, and the parts before all of them, in reverse. -/
structure Brackets where
  opened : List OpenBracket
  before : List Part
  /-- The place of a closing bracket that was tried in vain as the end of a reference. -/
  stale : Option Nat

namespace Brackets

/-- Nothing is read. -/
def start : Brackets := ⟨[], [], none⟩

/-- Adds parts, given in reverse. -/
def pushAll (b : Brackets) (ps : List Part) : Brackets :=
  match b.opened with
  | [] => { b with before := ps ++ b.before }
  | o :: os => { b with opened := { o with after := ps ++ o.after } :: os }

/-- Adds a node. -/
def push (b : Brackets) (i : Inline) : Brackets := b.pushAll [.done i]

/-- The parts of brackets that stay text, in reverse. -/
def flatten (s : Source) (os : List OpenBracket) : List Part :=
  os.flatMap fun o => o.after ++ [.done (.plain s o.start o.stop)]

/-- All parts, with the brackets that are still open as text. -/
def parts (s : Source) (b : Brackets) : List Part :=
  (flatten s b.opened ++ b.before).reverse

/-- Takes the chance to start a link from the open brackets that are not for images. -/
def disable (os : List OpenBracket) : List OpenBracket :=
  os.map fun o => if o.image then o else { o with live := false }

end Brackets

/-- The tag of a link or an image. -/
def linkTag (image : Bool) (d : Definition) : Tag :=
  if image then .image d.url d.title else .link false d.url d.title

/-- Turns an open bracket and what follows it into a link or an image up to `stop`. -/
def link (sc : Scope) (b : Brackets) (o : OpenBracket) (d : Definition) (stop : Nat) :
    Brackets :=
  let children := resolveEmphasis sc.source o.after.reverse
  let b := if o.image then b else { b with opened := Brackets.disable b.opened }
  b.push (.node (linkTag o.image d) o.start stop children)

/-- Turns an open bracket into a reference to a footnote; brackets around it stay text. -/
def footnote (sc : Scope) (b : Brackets) (o : OpenBracket) (label : String) (stop : Nat) :
    Brackets :=
  let outer := Brackets.flatten sc.source b.opened ++ b.before
  let start := if o.image then o.start + 1 else o.start
  let mark : List Part :=
    if o.image then [.done (.leaf (.text "!") o.start start)] else []
  ⟨[], .done (.leaf (.footnoteReference label) start stop) :: mark ++ outer, b.stale⟩

/-- Keeps a pair of brackets as text. -/
def plainBrackets (sc : Scope) (b : Brackets) (o : OpenBracket) (p : Piece) : Brackets :=
  b.pushAll (.done (.plain sc.source p.start p.stop) :: Brackets.flatten sc.source [o])

/-- Reads a closing bracket as the end of a reference; the second result is the place from
which on pieces are to be read. -/
def closeReference (sc : Scope) (b : Brackets) (o : OpenBracket) (p : Piece) (fresh : Bool) :
    Brackets × Nat :=
  let follows := sc.drop p.stop
  let own : Option Label :=
    match sc.label? (sc.source.slice (o.stop - 1) p.stop) with
    | some (l, n) => if o.stop - 1 + n = p.stop then some l else none
    | none => none
  let text := (plainBrackets sc b o p, p.stop)
  let refer (l : Option Label) (stop next : Nat) (otherwise : Brackets × Nat) :
      Brackets × Nat :=
    match l with
    | some (.reference label) =>
      match sc.definitions.get? (Link.key label) with
      | some d => (link sc b o d stop, next)
      | none => otherwise
    | some (.footnote label) =>
      if sc.footnotes.contains (Link.key label) then (footnote sc b o label stop, p.stop)
      else otherwise
    | none => otherwise
  match follows, sc.label? follows with
  | '[' :: ']' :: _, _ => if fresh then refer own p.stop (p.stop + 2) text else text
  | _, some (.reference label, n) =>
    let stop := p.stop + n
    let (b', next) := text
    refer (some (.reference label)) stop stop ({ b' with stale := some (stop - 1) }, next)
  | _, _ => if fresh then refer own p.stop p.stop text else text

/-- Reads a closing bracket; the second result is the place from which on pieces are to be
read. -/
def closeBracket (sc : Scope) (b : Brackets) (p : Piece) (fresh : Bool) : Brackets × Nat :=
  match b.opened with
  | [] => (b.push (.plain sc.source p.start p.stop), p.stop)
  | o :: outer =>
    let b := { b with opened := outer }
    if !o.live then (plainBrackets sc b o p, p.stop)
    else
      match sc.inlineTarget? p.stop with
      | some (d, stop) => (link sc b o d stop, stop)
      | none => closeReference sc b o p fresh

/-! ## All pieces -/

/-- Reads an opening angle bracket; the second result is the place from which on pieces are to
be read. -/
def angle (sc : Scope) (b : Brackets) (p : Piece) : Brackets × Nat :=
  let cs := sc.drop p.stop
  match Link.autolink? cs with
  | some (email, address) =>
    let stop := p.stop + address.length + 1
    let child := Inline.plain sc.source p.stop (stop - 1)
    (b.push (.node (.link email (String.ofList address) "") p.start stop [child]), stop)
  | none =>
    match HtmlTag.inline? (some sc.margin) cs with
    | some (read, rest) =>
      let stop := p.stop + (cs.length - rest.length)
      (b.push (.leaf (.inlineHtml (String.ofList ('<' :: read))) p.start stop), stop)
    | none => (b.push (.plain sc.source p.start p.stop), p.stop)

/-- Whether a piece is a run of so many backticks. -/
def isTicks (count : Nat) (p : Piece) : Bool :=
  match p.mark with
  | .ticks n _ => n = count
  | _ => false

/-- Reads a run of backticks; the second result is the place from which on pieces are to be
read. -/
def ticks (sc : Scope) (b : Brackets) (p : Piece) (count : Nat) (escaped : Bool)
    (later : List Piece) : Brackets × Nat :=
  let wanted := if escaped then count - 1 else count
  match if wanted = 0 then none else later.find? (isTicks wanted) with
  | none => (b.push (.plain sc.source p.start p.stop), p.stop)
  | some q =>
    let code : Event := .code (sc.code p.stop q.start)
    if escaped then
      let b := b.push (.plain sc.source p.start (p.start + 1))
      (b.push (.leaf code (p.start + 1) q.stop), q.stop)
    else (b.push (.leaf code p.start q.stop), q.stop)

/-- Reads pieces, leaving out what ends at or before the place `from`. -/
def read (sc : Scope) : Nat → Brackets → List Piece → Brackets
  | _, b, [] => b
  | place, b, p :: ps =>
    if p.stop ≤ place then read sc place b ps
    else
      let p := { p with start := max p.start place }
      let plain : Brackets := b.push (.plain sc.source p.start p.stop)
      let leaf (e : Event) : Brackets := b.push (.leaf e p.start p.stop)
      match p.mark with
      | .plain => read sc place plain ps
      | .standsFor s => read sc place (leaf (.text s)) ps
      | .softBreak => read sc place (leaf .softBreak) ps
      | .hardBreak backslash =>
        read sc place (b.pushAll [.hardBreak backslash p.start p.stop]) ps
      | .run mark count opens closes =>
        read sc place (b.pushAll [.run ⟨mark, count, opens, closes, p.start⟩]) ps
      | .bracket image =>
        read sc place { b with opened := ⟨image, true, p.start, p.stop, []⟩ :: b.opened } ps
      | .angle =>
        let (b, place) := angle sc b p
        read sc place b ps
      | .ticks count escaped =>
        let (b, place) := ticks sc b p count escaped ps
        read sc place b ps
      | .closing fresh =>
        let (b, place) := closeBracket sc b p (fresh && b.stale != some p.start)
        read sc place b ps

/-- The inline nodes of pieces. -/
def resolve (sc : Scope) (pieces : List Piece) : List Inline :=
  resolveEmphasis sc.source ((read sc 0 .start pieces).parts sc.source)

end Scope

end Markdown

end PagePress
