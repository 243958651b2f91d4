import PagePress.Markdown.Block
import PagePress.Markdown.BlockStart

/-!
# The flow of blocks

* `Flow` is what is read of a document: the open containers with the blocks inside them, and
  what labels stand for;
* its operations open and close containers, with the rules for lists: a list goes on at an item
  with the same mark, and is loose if a blank line stands between two of its blocks;
* `Flow.interrupts` tells which lines end a paragraph.
-/

namespace PagePress

namespace Markdown

/-- A container that is open, and the blocks read inside it, in reverse. -/
structure OpenContainer where
  container : Container
  start : Nat
  blocks : List Block

/-- What is read of a document. -/
structure Flow where
  /-- The open containers, innermost first. -/
  opened : List OpenContainer
  /-- The blocks outside of them, in reverse. -/
  blocks : List Block
  /-- The place after the first line of an item that starts with a blank line. -/
  blankItem : Option Nat
  /-- Whether the line before is blank. -/
  afterBlank : Bool
  definitions : Dict Definition
  /-- The labels of footnotes, in the form in which they are compared. -/
  footnotes : List String

namespace Flow

/-- Nothing is read. -/
def start : Flow := ⟨[], [], none, false, .empty, []⟩

/-- The open containers from the outside in. -/
def containers (f : Flow) : List Container := (f.opened.map (·.container)).reverse

/-- Adds a block. -/
def push (f : Flow) (b : Block) : Flow :=
  match f.opened with
  | [] => { f with blocks := b :: f.blocks }
  | o :: os => { f with opened := { o with blocks := b :: o.blocks } :: os }

/-- Opens a container. -/
def openContainer (f : Flow) (c : Container) (start : Nat) : Flow :=
  { f with opened := ⟨c, start, []⟩ :: f.opened }

/-- Closes the innermost container at a place. -/
def close (f : Flow) (stop : Nat) : Flow :=
  match f.opened with
  | [] => f
  | o :: os =>
    let children := o.blocks.reverse
    let f := { f with opened := os }
    match o.container with
    | .list true mark first =>
      { f with blankItem := none }.push
        (.container (.list true mark first) o.start stop (children.map Block.tightenItem))
    | c => f.push (.container c o.start stop children)

/-- Closes all but the outermost `n` containers at a place. -/
def closeTo (f : Flow) (n stop : Nat) : Flow :=
  Nat.repeat (fun f => f.close stop) (f.opened.length - n) f

/-! ## Lists -/

/-- Makes the innermost container loose, if it is a list. -/
def loosen : List OpenContainer → List OpenContainer
  | o :: os =>
    match o.container with
    | .list _ mark first => { o with container := .list false mark first } :: os
    | _ => o :: os
  | [] => []

/-- Whether the innermost container is a list. -/
def inList (f : Flow) : Bool :=
  match f.opened with
  | ⟨.list .., _, _⟩ :: _ => true
  | _ => false

/-- Closes an item that starts with two blank lines. -/
def closeBlankItem (f : Flow) : Flow :=
  let f' := match f.blankItem, f.opened with
    | some stop, ⟨.item _, _, _⟩ :: _ => if f.afterBlank then f.close stop else f
    | _, _ => f
  { f' with blankItem := none }

/-- Closes a list that no item goes on with, before another block. -/
def closeList (f : Flow) (stop : Nat) : Flow :=
  let f := f.closeBlankItem
  let f := if f.inList then f.close stop else f
  if f.afterBlank then
    let opened := match f.opened with
      | o :: os => o :: loosen os
      | [] => []
    { f with opened := opened, afterBlank := false }
  else f

/-- Goes on with an open list of the mark, or opens a list. -/
def openList (f : Flow) (start : Nat) (mark : Char) (number : Nat) : Flow :=
  let f := f.closeBlankItem
  let fresh (f : Flow) : Flow :=
    { f.openContainer (.list true mark number) start with afterBlank := false }
  match f.opened with
  | [] => fresh f
  | o :: os =>
    match o.container with
    | .list _ mark' _ =>
      if mark' = mark then
        if f.afterBlank then { f with opened := loosen (o :: os), afterBlank := false } else f
      else fresh (f.closeList start)
    | _ => fresh (f.closeList start)

/-! ## Lines between blocks -/

/-- Reads a blank line. -/
def blankLine (f : Flow) : Flow :=
  match f.opened with
  | ⟨.quote, _, _⟩ :: _ => f
  | ⟨.item n, start, blocks⟩ :: os =>
    let n := if f.blankItem.isSome then 0 else n
    { f with opened := ⟨.item n, start, blocks⟩ :: os, afterBlank := true }
  | _ => { f with afterBlank := true }

/-! ## Interruptions -/

/-- The length of the mark that starts the definition of a footnote, and the label. -/
def footnoteMark? (cs : List Char) : Option (String × Nat) :=
  match cs with
  | '[' :: '^' :: rest =>
    match Link.label? false (fun _ => none) rest with
    | some (label, n) => if (rest.drop n).head? == some ':' then some (label, n + 3) else none
    | none => none
  | _ => none

/-- The alignments of a table that starts at a line with pipes and the length of its first two
lines; the line after the first is at `next`. -/
def tableHead? (containers : List Container) (line : List Char) (pipes lastPipe next : Nat) :
    Option (List (Option Mdast.Align) × Nat) :=
  if pipes = 0 then none
  else
    let (inside, m) := passAllContainers containers ⟨line.drop next, 0, 0, 0⟩
    if !inside then none
    else
      match BlockStart.delimiterRow? m.rest with
      | some (n, aligns) =>
        if aligns.length = BlockStart.columnCount line pipes lastPipe then
          some (aligns, next + m.ix + n)
        else none
      | none => none

/-- Whether a table starts at a line that starts with a pipe. -/
def startsTable (containers : List Container) (line : List Char) : Bool :=
  line.head? == some '|' &&
    match BlockStart.pipesOf false 0 0 0 line with
    | some (pipes, lastPipe, next) => (tableHead? containers line pipes lastPipe next).isSome
    | none => false

/-- Whether a line, after its containers and indentation, ends the paragraph before it.
`inside` tells whether the line belongs to all containers. -/
def interrupts (containers : List Container) (inside : Bool) (line : List Char) : Bool :=
  BlockStart.interrupts inside line || (footnoteMark? line).isSome
    || (inside && startsTable containers line)

/-- Whether a line goes on with the paragraph before it; with the margin after its
indentation. -/
def continues (f : Flow) (m : Margin) : Bool × Margin :=
  let (inside, m) := passAllContainers f.containers m
  let (missing, m) := m.pass 4
  (missing = 0 || !interrupts f.containers inside m.rest, m.passAll)

/-! ## Literal blocks -/

/-- The chunks of a line of a literal block after `pending` columns of a tab: a carriage return
before the line feed is left out. -/
def chunks (s : Source) (pending start stop : Nat) : List Chunk :=
  let tab := if pending = 0 then [] else [⟨String.ofList (List.replicate pending ' '), start, start⟩]
  let part (start stop : Nat) : List Chunk :=
    if start < stop then [⟨s.text start stop, start, stop⟩] else []
  tab ++
    if 2 ≤ stop && s.at? (stop - 2) == some '\r' then
      part start (stop - 2) ++ part (stop - 1) stop
    else part start stop

/-- The place after the line that starts at a place. -/
def lineEnd (s : Source) (ix : Nat) : Nat := ix + lineLength (s.drop ix)

end Flow

end Markdown

end PagePress
