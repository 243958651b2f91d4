import PagePress.Markup.Forest
import PagePress.Mdast.Node
import PagePress.Text.Quoted

/-!
# Matchers — how a site renders particular nodes

* `Output` is what a renderer returns, `Output.slot` what that leaves in the node's place;
* `Part` is a markdown node together with what it and its descendants render to;
* `Site` is what a renderer sees of the node it is given;
* `Matcher` pairs a `Selector` with a renderer; `Registry.find?` picks the first that
  selects a node.
-/

namespace PagePress

namespace Render

/-! ## Errors -/

/-- Why a tree cannot be rendered. -/
inductive Error where
  /-- No matcher selects the node and its type is not a standard one. -/
  | unknownType (type : String)
  /-- Markup text is unfinished or misshapen. -/
  | markup
  /-- The renderer of a node of this type gave up. -/
  | renderer (type message : String)
deriving DecidableEq, Repr

/-- The wording of an error. -/
def Error.message : Error → String
  | .unknownType t => "unknown node type `" ++ t ++ "`: no matcher or default renderer"
  | .markup => "markup parse error"
  | .renderer t m => "renderer failed for `" ++ t ++ "`: " ++ m

/-- What a rendered node leaves in its place: nothing or one view node. -/
abbrev Slot := Except Error (Option View.Node)

/-! ## Outputs -/

/-- The tag of the element that holds several nodes in one place. -/
def containerTag : String := "div"

/-- What a renderer returns. -/
inductive Output where
  /-- Markup text, to be read. -/
  | markup (text : String)
  /-- One node. -/
  | node (n : View.Node)
  /-- Any number of nodes. -/
  | nodes (ns : List View.Node)

/-- Nothing, the only node, or a container around several nodes. -/
def gather : List View.Node → Option View.Node
  | [] => none
  | [n] => some n
  | ns => some (.plain containerTag ns)

/-- The nodes of markup text. -/
def read (markup : List Char) : Except Error (List View.Node) :=
  match Markup.parseChars? markup with
  | some ns => .ok ns
  | none => .error .markup

/-- The slot that an output fills; blank texts at the top of markup are dropped. -/
def Output.slot : Output → Slot
  | .markup s => (read s.toList).map fun ns => gather (ns.filter fun n => !n.isBlank)
  | .node n => .ok (some n)
  | .nodes ns => .ok (gather ns)

/-! ## Rendered parts -/

/-- A node with its slot, the slot that a matcher chose for it, what its children render to
together, and the same for each child. -/
inductive Part where
  | mk (node : Mdast.Node) (chosen : Option Slot) (slot : Slot)
      (content : Except Error (List View.Node)) (parts : List Part)

namespace Part

/-- The markdown node. -/
def node : Part → Mdast.Node
  | mk n _ _ _ _ => n

/-- The slot that a matcher filled, if one selects the node. -/
def chosen : Part → Option Slot
  | mk _ c _ _ _ => c

/-- The slot of the node. -/
def slot : Part → Slot
  | mk _ _ s _ _ => s

/-- The rendered children. -/
def content : Part → Except Error (List View.Node)
  | mk _ _ _ c _ => c

/-- The children with what they render to. -/
def parts : Part → List Part
  | mk _ _ _ _ ps => ps

/-- The slot of the node where its place calls for another rendering than usual, which gives
way to a matcher. -/
def slotOr (p : Part) (usual : Slot) : Slot := p.chosen.getD usual

end Part

/-- What a renderer sees: the node, what its children render to, and the definition of an
identifier. -/
structure Site where
  node : Mdast.Node
  content : Except Error (List View.Node)
  parts : List Part
  definition? : String → Option Mdast.Node

/-- Renders one node. -/
abbrev Renderer := Site → Except Error Output

/-! ## Matchers -/

/-- Decides which nodes a matcher applies to. -/
inductive Selector where
  /-- Nodes of a type. -/
  | type (name : String)
  /-- Nodes that pass a test. -/
  | test (passes : Mdast.Node → Bool)

/-- Whether a node is selected. -/
def Selector.selects : Selector → Mdast.Node → Bool
  | .type t, n => n.type == t
  | .test p, n => p n

/-- The selector of a standard kind. -/
def Selector.kind (k : Mdast.Kind) : Selector := .type k.name

/-- What a selector looks for, as a text. -/
def Selector.describe : Selector → String
  | .type t => "Type(" ++ Text.quoted t ++ ")"
  | .test _ => "Predicate(..)"

/-- A selector and the renderer of the nodes it selects. -/
structure Matcher where
  selector : Selector
  render : Renderer

/-- Matchers in the order in which they are tried. -/
abbrev Registry := List Matcher

/-- The first matcher that selects a node. -/
def Registry.find? (r : Registry) (n : Mdast.Node) : Option Matcher :=
  List.find? (fun m => m.selector.selects n) r

end Render

end PagePress
