import PagePress.Render.Matcher

/-!
# Standard renderers

The rendering of the standard node types.  Block containers separate their children by line
feeds, and a tight list item holds the content of its paragraphs directly.

* `content` renders the children of a node, reading them as one fragment where raw HTML may
  open an element in one child and close it in another;
* `standard` renders a node whose type is a standard one.
-/

namespace PagePress

namespace Render

open Mdast (Kind Align)
open View (Node)

/-! ## Children -/

/-- The nodes in a list of slots, or the first error among them. -/
def collect : List Slot → Except Error (List Node)
  | [] => .ok []
  | s :: rest => do
    let n ← s
    let ns ← collect rest
    pure (n.toList ++ ns)

/-- Whether the children of a node run on in a line. -/
def isPhrasingParent (n : Mdast.Node) : Bool :=
  match n.kind? with
  | some .paragraph | some .heading | some .emphasis | some .strong | some .delete
  | some .link | some .linkReference | some .tableCell => true
  | _ => false

/-- The HTML that one child gives to a fragment: raw HTML that no matcher selects as it is,
any other child rendered. -/
def Part.fragment (p : Part) : Except Error (List Char) :=
  if p.node.is .html && p.chosen.isNone then .ok (p.node.value.getD "").toList
  else p.slot.map fun
    | some n => n.html
    | none => []

/-- The HTML of a list of children. -/
def fragment : List Part → Except Error (List Char)
  | [] => .ok []
  | p :: rest => do
    let h ← p.fragment
    let hs ← fragment rest
    pure (h ++ hs)

/-- The rendered children of a node. -/
def content (n : Mdast.Node) (parts : List Part) : Except Error (List Node) :=
  if isPhrasingParent n && parts.any (fun p => p.node.is .html) then fragment parts >>= read
  else collect (parts.map Part.slot)

/-! ## Line feeds -/

/-- A line feed. -/
def newline : Node := .text "\n"

/-- Nodes with a line feed between each two. -/
def separate : List Node → List Node
  | [] => []
  | [n] => [n]
  | n :: ns => n :: newline :: separate ns

/-- Nodes on lines of their own. -/
def wrapLoose : List Node → List Node
  | [] => [newline]
  | ns => newline :: separate ns ++ [newline]

/-! ## Elements -/

/-- An element with attributes. -/
def element (tag : String) (attrs : List (String × String)) (children : List Node) : Node :=
  .element tag (.ofList attrs) children

/-- A title attribute, if there is a title. -/
def titleAttr (title : Option String) : List (String × String) :=
  title.toList.map fun t => ("title", t)

/-- A link to a target. -/
def anchor (url title : Option String) (children : List Node) : Node :=
  element "a" (("href", url.getD "") :: titleAttr title) children

/-- An image. -/
def image (url alt title : Option String) : Node :=
  element "img" ([("src", url.getD ""), ("alt", alt.getD "")] ++ titleAttr title) []

/-- The element of a heading level; levels outside one to six count as the nearest of them. -/
def headingTag (depth : Option UInt8) : String :=
  s!"h{min 6 (max 1 ((depth.getD 1).toNat))}"

/-- A block of code. -/
def codeBlock (f : Mdast.Fields) : Node :=
  let lang := f.lang.getD ""
  let attrs := if lang.isEmpty then [] else [("class", "language-" ++ lang)]
  .plain "pre" [element "code" attrs [.text (f.value.getD "" ++ "\n")]]

/-! ## Lists -/

/-- The element of a list around its items. -/
def list (f : Mdast.Fields) (items : List Node) : Node :=
  if f.ordered.getD false then
    match f.start with
    | some n => element "ol" (if n = 1 then [] else [("start", toString n)]) (wrapLoose items)
    | none => .plain "ol" (wrapLoose items)
  else .plain "ul" (wrapLoose items)

/-- Whether a node is a paragraph element. -/
def isParagraph (n : Node) : Bool := n.tag? == some "p"

/-- The checkbox of a task. -/
def checkbox (checked : Bool) : Node :=
  element "input"
    ([("type", "checkbox"), ("disabled", "")] ++ (if checked then [("checked", "")] else [])) []

/-- Puts a checkbox at the front of a paragraph's content. -/
def checkFront (box : Node) : List Node → List Node
  | [] => [box]
  | cs => box :: .text " " :: cs

/-- Puts a checkbox at the front of a task item: into its leading paragraph, or into one of
its own. -/
def withCheckbox (checked : Bool) : List Node → List Node
  | .element "p" as cs :: rest => .element "p" as (checkFront (checkbox checked) cs) :: rest
  | ns => .plain "p" [checkbox checked] :: ns

/-- Whether the content of an item stands on lines of its own. -/
def isLoose (n : Mdast.Node) : Bool :=
  match n.fields.spread, n.fields.loose with
  | some b, _ => b
  | none, some b => b
  | none, none => n.children.length > 1

/-- One child of an item: preceded by a line feed except for a paragraph that opens a tight
item, and reduced to its content if it is a paragraph of a tight item. -/
def itemChild (loose opening : Bool) (n : Node) : List Node :=
  (if loose || !opening || !isParagraph n then [newline] else [])
    ++ (if isParagraph n && !loose then n.children else [n])

/-- The content of an item. -/
def itemContent (loose : Bool) : List Node → List Node
  | [] => []
  | n :: ns =>
    let last := ns.getLastD n
    itemChild loose true n ++ ns.flatMap (itemChild loose false)
      ++ (if loose || !isParagraph last then [newline] else [])

/-- A list item around its rendered children. -/
def listItem (n : Mdast.Node) (children : List Node) : Node :=
  match n.fields.checked with
  | some checked =>
    element "li" [("class", "task-list-item")]
      (itemContent (isLoose n) (withCheckbox checked children))
  | none => .plain "li" (itemContent (isLoose n) children)

/-! ## Tables -/

/-- A cell around its content. -/
def cell (tag : String) (align : Option Align) (children : List Node) : Node :=
  element tag (align.toList.map fun a => ("align", a.name)) children

/-- The cells of a row, aligned by their places. -/
def cells (tag : String) : List (Option Align) → List Part → List Slot
  | _, [] => []
  | as, p :: ps =>
    p.slotOr (p.content.map fun c => some (cell tag (as.head?.getD none) c))
      :: cells tag as.tail ps

/-- A row of cells. -/
def row (tag : String) (align : List (Option Align)) (parts : List Part) :
    Except Error Node :=
  (collect (cells tag align parts)).map fun cs => .plain "tr" (wrapLoose cs)

/-- The slot of a row in its table. -/
def rowSlot (tag : String) (align : List (Option Align)) (p : Part) : Slot :=
  p.slotOr ((row tag align p.parts).map some)

/-- The slots of the rows: header cells in the first, data cells in the others. -/
def rowSlots (align : List (Option Align)) : List Part → List Slot
  | [] => []
  | p :: ps => rowSlot "th" align p :: ps.map (rowSlot "td" align)

/-- The sections of a table: the first row that is there is its head, the others its body. -/
def tableSections : List Node → List Node
  | [] => []
  | [head] => [.plain "thead" (wrapLoose [head])]
  | head :: body => [.plain "thead" (wrapLoose [head]), .plain "tbody" (wrapLoose body)]

/-- A table around its rows. -/
def table (f : Mdast.Fields) (parts : List Part) : Except Error Node :=
  (collect (rowSlots (f.align.getD []) parts)).map fun rows =>
    .plain "table" (wrapLoose (tableSections rows))

/-! ## References -/

/-- The written form of a reference after its text, where its definition is missing. -/
def referenceSuffix (f : Mdast.Fields) : String :=
  match f.referenceType with
  | some "collapsed" => "[]"
  | some "full" => "[" ++ (f.label.getD (f.identifier.getD "")) ++ "]"
  | _ => ""

/-- The definition that a node refers to. -/
def Site.referent? (s : Site) : Option Mdast.Node := s.node.fields.identifier.bind s.definition?

/-- A link to a definition, or the text that was written. -/
def linkReference (s : Site) : Except Error Node :=
  match s.referent? with
  | some d => s.content.map (anchor d.fields.url d.fields.title)
  | none => .ok (.text ("[" ++ s.node.textContent ++ "]" ++ referenceSuffix s.node.fields))

/-- An image of a definition, or the text that was written. -/
def imageReference (s : Site) : Node :=
  let f := s.node.fields
  match s.referent? with
  | some d => image d.fields.url f.alt d.fields.title
  | none => .text ("![" ++ f.alt.getD "" ++ "]" ++ referenceSuffix f)

/-- A footnote at the place where it is defined. -/
def footnoteDefinition (f : Mdast.Fields) (children : List Node) : Node :=
  element "div" [("class", "footnote"), ("id", "fn-" ++ f.identifier.getD "")]
    (wrapLoose children)

/-- The mark of a footnote in the text. -/
def footnoteReference (f : Mdast.Fields) : Node :=
  let id := f.identifier.getD ""
  element "sup" [("id", "fnref-" ++ id)]
    [element "a" [("href", "#fn-" ++ id)] [.text (f.label.getD id)]]

/-! ## All kinds -/

/-- Renders a node of a standard kind. -/
def ofKind (s : Site) : Kind → Except Error Output
  | .root => s.content.map fun cs => .nodes (separate cs)
  | .paragraph => s.content.map fun cs => .node (.plain "p" cs)
  | .text => .ok (.node (.text (s.node.value.getD "")))
  | .heading => s.content.map fun cs => .node (.plain (headingTag s.node.fields.depth) cs)
  | .thematicBreak => .ok (.node (.plain "hr" []))
  | .blockquote => s.content.map fun cs => .node (.plain "blockquote" (wrapLoose cs))
  | .list => s.content.map fun cs => .node (list s.node.fields cs)
  | .listItem => s.content.map fun cs => .node (listItem s.node cs)
  | .table => (table s.node.fields s.parts).map .node
  | .tableRow => (row "td" [] s.parts).map .node
  | .tableCell => s.content.map fun cs => .node (.plain "td" cs)
  | .html => .ok (.markup (s.node.value.getD ""))
  | .code => .ok (.node (codeBlock s.node.fields))
  | .yaml => .ok (.nodes [])
  | .definition => .ok (.nodes [])
  | .footnoteDefinition => s.content.map fun cs => .node (footnoteDefinition s.node.fields cs)
  | .emphasis => s.content.map fun cs => .node (.plain "em" cs)
  | .strong => s.content.map fun cs => .node (.plain "strong" cs)
  | .delete => s.content.map fun cs => .node (.plain "del" cs)
  | .inlineCode => .ok (.node (.plain "code" [.text (s.node.value.getD "")]))
  | .break => .ok (.node (.plain "br" []))
  | .link => s.content.map fun cs => .node (anchor s.node.fields.url s.node.fields.title cs)
  | .image => .ok (.node (image s.node.fields.url s.node.fields.alt s.node.fields.title))
  | .linkReference => (linkReference s).map .node
  | .imageReference => .ok (.node (imageReference s))
  | .footnote => s.content.map fun cs => .node (element "sup" [("class", "footnote")] cs)
  | .footnoteReference => .ok (.node (footnoteReference s.node.fields))

/-- Renders a node whose type is a standard one and refuses any other. -/
def standard : Renderer := fun s =>
  match s.node.kind? with
  | some k => ofKind s k
  | none => .error (.unknownType s.node.type)

end Render

end PagePress
