import PagePress.Markdown.LineIndex
import PagePress.Text.Blank
import PagePress.Text.Case

/-!
# From events to the markdown tree

* `Draft` is a tree under construction: the open nodes, innermost first;
* `Draft.step` reads one event, `Draft.finish` closes what is still open;
* `wrapPhrasing` puts each run of phrasing nodes of a tight list item into a paragraph, so that
  every item has the same shape;
* `treeOf` is the tree of a list of events.
-/

namespace PagePress

namespace Markdown

open Mdast (Node Kind Fields)

/-! ## Open nodes -/

/-- A node whose end is still to come. -/
structure Frame where
  /-- The kind of the node; none if its children go to the node around it. -/
  kind : Option Kind
  fields : Fields
  span : Span
  /-- The children read so far, in reverse. -/
  earlier : List Node
  /-- Whether a paragraph was opened directly in the node. -/
  hasParagraph : Bool

namespace Frame

/-- A frame without children. -/
def new (kind : Option Kind) (fields : Fields) (span : Span) : Frame :=
  ⟨kind, fields, span, [], false⟩

/-- Whether the node collects text in its value. -/
def isLiteral (f : Frame) : Bool :=
  match f.kind with
  | some .code | some .html | some .yaml => true
  | _ => false

/-- Adds a child. -/
def push (f : Frame) (n : Node) : Frame := { f with earlier := n :: f.earlier }

/-- Adds text to the value. -/
def appendValue (f : Frame) (s : String) : Frame :=
  { f with fields := { f.fields with value := some (f.fields.value.getD "" ++ s) } }

end Frame

/-! ## Phrasing -/

/-- Whether a node may stand in a paragraph. -/
def isPhrasing (n : Node) : Bool :=
  match n.kind? with
  | some .text | some .emphasis | some .strong | some .delete | some .inlineCode | some .break
  | some .link | some .image | some .html | some .footnoteReference => true
  | _ => false

/-- The span from the first to the last node of a list, if both have one. -/
def spanOf (first last : Option Node) : Option Mdast.Position := do
  let p ← first >>= Node.position
  let q ← last >>= Node.position
  some (.span p.start q.stop)

/-- The paragraph of a run of nodes; an empty run gives none. -/
def paragraphOf (run : List Node) : List Node :=
  if run.isEmpty then []
  else
    [.mk Kind.paragraph.name
      { Fields.none with position := spanOf run.head? run.getLast? } run]

/-- Wraps each longest run of phrasing nodes, where `run` holds the run being read, in
reverse. -/
def wrapFrom (run : List Node) : List Node → List Node
  | [] => paragraphOf run.reverse
  | n :: ns =>
    if isPhrasing n then wrapFrom (n :: run) ns
    else paragraphOf run.reverse ++ n :: wrapFrom [] ns

/-- Wraps each longest run of phrasing nodes in a paragraph. -/
def wrapPhrasing (ns : List Node) : List Node := wrapFrom [] ns

/-! ## Tags -/

/-- A text that is not empty. -/
def nonEmpty? (s : String) : Option String := if s.isEmpty then none else some s

/-- The language of a fence and the rest of its information. -/
def fenceInfo (info : String) : Option String × Option String :=
  let cs := (Text.trim info).toList
  let isWord (c : Char) := !Text.isBlank c
  (nonEmpty? (String.ofList (cs.takeWhile isWord)),
    nonEmpty? (Text.trim (String.ofList (cs.dropWhile isWord))))

/-- Fields with an identifier and the label it is written as. -/
def labelled (label : String) : Fields :=
  { Fields.none with identifier := some (Text.toLower label), label := some label }

/-- Fields with a target and a title. -/
def targeted (url title : String) : Fields :=
  { Fields.none with url := some url, title := nonEmpty? title }

/-- The kind and the fields of a tag's node. -/
def Tag.node : Tag → Option Kind × Fields
  | .paragraph => (some .paragraph, .none)
  | .heading level => (some .heading, { Fields.none with depth := some (level.val + 1).toUInt8 })
  | .blockquote => (some .blockquote, .none)
  | .code none => (some .code, .none)
  | .code (some info) =>
    let (lang, rest) := fenceInfo info
    (some .code, { Fields.none with lang := lang, info := rest })
  | .htmlBlock => (some .html, .none)
  | .metadata => (some .yaml, .none)
  | .list first => (some .list, { Fields.none with ordered := some first.isSome, start := first })
  | .item => (some .listItem, .none)
  | .footnoteDefinition label => (some .footnoteDefinition, labelled label)
  | .table align => (some .table, { Fields.none with align := some align })
  | .tableRow => (some .tableRow, .none)
  | .tableCell => (some .tableCell, .none)
  | .emphasis => (some .emphasis, .none)
  | .strong => (some .strong, .none)
  | .delete => (some .delete, .none)
  | .link email url title =>
    (some .link, targeted (if email then "mailto:" ++ url else url) title)
  | .image url title => (some .image, targeted url title)
  | .group => (none, .none)

/-! ## Closing -/

/-- A value without the line feed at its end. -/
def dropLastNewline (s : String) : String :=
  match s.toList.reverse with
  | '\n' :: cs => String.ofList cs.reverse
  | _ => s

/-- The fields and children of a closed node. -/
def Frame.settle (f : Frame) (k : Kind) : Fields × List Node :=
  let children := f.earlier.reverse
  match k with
  | .listItem =>
    ({ f.fields with spread := some f.hasParagraph },
      if f.hasParagraph then children else wrapPhrasing children)
  | .list =>
    ({ f.fields with spread := some (children.any fun n => n.fields.spread == some true) },
      children)
  | .code | .html | .yaml =>
    ({ f.fields with value := some (dropLastNewline (f.fields.value.getD "")) }, children)
  | .image =>
    ({ f.fields with alt := nonEmpty? (Node.mk k.name f.fields children).textContent }, [])
  | _ => (f.fields, children)

/-- The node of a closed frame. -/
def Frame.finalize (index : LineIndex) (f : Frame) (k : Kind) : Node :=
  let (fields, children) := f.settle k
  .mk k.name { fields with position := some (index.position f.span) } children

/-! ## Trees under construction -/

/-- The innermost open node and the open nodes around it, from the inside out. -/
structure Draft where
  current : Frame
  outer : List Frame

namespace Draft

/-- An empty document. -/
def start (text : String) : Draft := ⟨.new (some .root) .none ⟨0, text.utf8ByteSize⟩, []⟩

/-- Opens a node. -/
def openTag (d : Draft) (tag : Tag) (span : Span) : Draft :=
  let (kind, fields) := tag.node
  let parent :=
    if tag = .paragraph && d.current.kind = some .listItem then
      { d.current with hasParagraph := true }
    else d.current
  ⟨.new kind fields span, parent :: d.outer⟩

/-- Closes the innermost open node; the document itself stays open. -/
def close (index : LineIndex) (d : Draft) : Draft :=
  match d.outer with
  | [] => d
  | parent :: outer =>
    match d.current.kind with
    | none => ⟨{ parent with earlier := d.current.earlier ++ parent.earlier }, outer⟩
    | some k => ⟨parent.push (d.current.finalize index k), outer⟩

/-- Adds a childless node. -/
def leaf (index : LineIndex) (d : Draft) (k : Kind) (fields : Fields) (span : Span) : Draft :=
  let n := .mk k.name { fields with position := some (index.position span) } []
  { d with current := d.current.push n }

/-- Adds a text to a text node before it. -/
def extendText (n : Node) (s : String) (stop : Mdast.Point) : Node :=
  n.mapFields fun f =>
    { f with
      value := some (f.value.getD "" ++ s)
      position := f.position.map fun p => { p with stop := stop } }

/-- Adds text: to the value of a literal node, to a text just before it, or as a node of its
own. -/
def addText (index : LineIndex) (d : Draft) (s : String) (span : Span) : Draft :=
  if d.current.isLiteral then { d with current := d.current.appendValue s }
  else
    match d.current.earlier with
    | n :: earlier =>
      if n.is .text then
        let n := extendText n s (index.point span.stop)
        { d with current := { d.current with earlier := n :: earlier } }
      else leaf index d .text { Fields.none with value := some s } span
    | [] => leaf index d .text { Fields.none with value := some s } span

/-- Sets the state of the first list item among open nodes. -/
def checkFirst (checked : Bool) : List Frame → List Frame
  | [] => []
  | f :: fs =>
    if f.kind = some .listItem then
      { f with fields := { f.fields with checked := some checked } } :: fs
    else f :: checkFirst checked fs

/-- Sets the state of the innermost open list item. -/
def check (d : Draft) (checked : Bool) : Draft :=
  match checkFirst checked (d.current :: d.outer) with
  | [] => d
  | f :: fs => ⟨f, fs⟩

/-- Reads one event. -/
def step (index : LineIndex) (d : Draft) (e : Located) : Draft :=
  let valued (k : Kind) (s : String) :=
    leaf index d k { Fields.none with value := some s } e.span
  match e.event with
  | .open tag => d.openTag tag e.span
  | .close => d.close index
  | .text s => d.addText index s e.span
  | .inlineMath s => d.addText index s e.span
  | .displayMath s => d.addText index s e.span
  | .code s => valued .inlineCode s
  | .html s =>
    if d.current.isLiteral then { d with current := d.current.appendValue s }
    else valued .html s
  | .inlineHtml s => valued .html s
  | .footnoteReference label => leaf index d .footnoteReference (labelled label) e.span
  | .softBreak => d.addText index "\n" e.span
  | .hardBreak => leaf index d .break .none e.span
  | .rule => leaf index d .thematicBreak .none e.span
  | .task checked => d.check checked

/-- Closes a frame into the one around it and goes on outwards. -/
def finishOuter (index : LineIndex) : List Frame → Frame → Frame
  | [], f => f
  | parent :: outer, f =>
    match f.kind with
    | none => finishOuter index outer { parent with earlier := f.earlier ++ parent.earlier }
    | some k => finishOuter index outer (parent.push (f.finalize index k))

/-- The tree, with every node closed. -/
def finish (index : LineIndex) (d : Draft) : Node :=
  (finishOuter index d.outer d.current).finalize index .root

end Draft

/-- The markdown tree of the events of a text. -/
def treeOf (text : String) (events : List Located) : Node :=
  let index := LineIndex.ofText text
  (events.foldl (Draft.step index) (.start text)).finish index

end Markdown

end PagePress
