import PagePress.Markdown.Brackets

/-!
# Blocks and their events

* `Block` is a block of a document at its place: a container with blocks inside, or a leaf whose
  text is cut into pieces;
* `Block.events` lists the events of a block, resolving the pieces of its leaves.
-/

namespace PagePress

namespace Markdown

/-- A stretch of a literal block; the text may differ from the source. -/
structure Chunk where
  text : String
  start : Nat
  stop : Nat
deriving DecidableEq, Repr

/-- A cell of a table row. -/
structure Cell where
  pieces : List Piece
  start : Nat
  stop : Nat

/-- A row of a table. -/
structure Row where
  cells : List Cell
  start : Nat
  stop : Nat

/-- A block without blocks inside. -/
inductive Leaf where
  /-- A paragraph; one of a tight list item has no events of its own. -/
  | paragraph (tight : Bool) (pieces : List Piece)
  | heading (level : Level) (pieces : List Piece)
  | code (info : Option String) (chunks : List Chunk)
  | html (chunks : List Chunk)
  | metadata (chunks : List Chunk)
  | rule
  | table (align : List (Option Mdast.Align)) (rows : List Row)
  | task (checked : Bool)

/-- A block at its place. -/
inductive Block where
  | leaf (leaf : Leaf) (start stop : Nat)
  | container (container : Container) (start stop : Nat) (children : List Block)

/-! ## Lists -/

/-- Takes the events of its own from a paragraph. -/
def Block.tighten : Block → Block
  | .leaf (.paragraph _ pieces) start stop => .leaf (.paragraph true pieces) start stop
  | b => b

/-- Tightens the paragraphs directly in a list item. -/
def Block.tightenItem : Block → Block
  | .container (.item n) start stop children =>
    .container (.item n) start stop (children.map Block.tighten)
  | b => b

/-! ## Events -/

/-- What is known about a whole document. -/
structure Document where
  source : Source
  definitions : Dict Definition
  footnotes : List String

namespace Document

variable (doc : Document)

/-- The events between the start and the end of a tag. -/
def tagged (tag : Tag) (start stop : Nat) (inner : List Located) : List Located :=
  let span := doc.source.span start stop
  ⟨.open tag, span⟩ :: inner ++ [⟨.close, span⟩]

/-- An event without others inside. -/
def event (e : Event) (start stop : Nat) : Located := ⟨e, doc.source.span start stop⟩

/-- The events of pieces in a block that ends at `limit`. -/
def inlineEvents (containers : List Container) (inTable : Bool) (limit : Nat)
    (pieces : List Piece) : List Located :=
  let scope : Scope :=
    ⟨doc.source, limit, containers, inTable, doc.definitions, doc.footnotes⟩
  Inline.eventsAll doc.source (scope.resolve pieces)

/-- The events of a row. -/
def rowEvents (containers : List Container) (r : Row) : List Located :=
  doc.tagged .tableRow r.start r.stop <|
    r.cells.flatMap fun c =>
      doc.tagged .tableCell c.start c.stop
        (doc.inlineEvents containers true c.stop c.pieces)

/-- The events of a leaf. -/
def leafEvents (containers : List Container) (start stop : Nat) : Leaf → List Located
  | .paragraph tight pieces =>
    let inner := doc.inlineEvents containers false stop pieces
    if tight then inner else doc.tagged .paragraph start stop inner
  | .heading level pieces =>
    doc.tagged (.heading level) start stop (doc.inlineEvents containers false stop pieces)
  | .code info chunks =>
    doc.tagged (.code info) start stop
      (chunks.map fun c => doc.event (.text c.text) c.start c.stop)
  | .html chunks =>
    doc.tagged .htmlBlock start stop
      (chunks.map fun c => doc.event (.html c.text) c.start c.stop)
  | .metadata chunks =>
    doc.tagged .metadata start stop
      (chunks.map fun c => doc.event (.text c.text) c.start c.stop)
  | .rule => [doc.event .rule start stop]
  | .table align rows =>
    doc.tagged (.table align) start stop (rows.flatMap (doc.rowEvents containers))
  | .task checked => [doc.event (.task checked) start stop]

/-- The tag of a container. -/
def containerTag : Container → Tag
  | .quote => .blockquote
  | .list _ mark first => .list (if mark = '.' || mark = ')' then some first else none)
  | .item _ => .item
  | .footnote label => .footnoteDefinition label

mutual

/-- The events of a block in containers. -/
def blockEvents (containers : List Container) : Block → List Located
  | .leaf l start stop => doc.leafEvents containers start stop l
  | .container c start stop children =>
    doc.tagged (containerTag c) start stop (blocksEvents (containers ++ [c]) children)

/-- The events of a list of blocks in containers. -/
def blocksEvents (containers : List Container) : List Block → List Located
  | [] => []
  | b :: bs => blockEvents containers b ++ blocksEvents containers bs

end

end Document

end Markdown

end PagePress
