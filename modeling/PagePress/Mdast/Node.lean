import PagePress.Json.Basic
import PagePress.Mdast.Kind

/-!
# The markdown tree

* `Point` and `Position` place a node in its source text;
* `Node` is a node: a type name, its fields and its children;
* `Node.walk` lists a node and its descendants in document order;
* `Node.textContent` is the text that the tree carries.
-/

namespace PagePress

namespace Mdast

/-! ## Positions -/

/-- A place in a text: line and column count from one, the offset in characters from zero. -/
structure Point where
  line : Nat
  column : Nat
  offset : Option Nat
deriving DecidableEq, Repr

/-- The span of a node. -/
structure Position where
  start : Point
  stop : Point
  indent : Option (List Nat)
deriving DecidableEq, Repr

/-- A span without indentation record. -/
def Position.span (start stop : Point) : Position := ⟨start, stop, none⟩

/-! ## Nodes -/

/-- Alignment of a table column. -/
inductive Align where
  | left
  | right
  | center
deriving DecidableEq, Repr

/-- The name of an alignment. -/
def Align.name : Align → String
  | .left => "left"
  | .right => "right"
  | .center => "center"

/-- The alignment of a name. -/
def Align.ofName? : String → Option Align
  | "left" => some .left
  | "right" => some .right
  | "center" => some .center
  | _ => none

/-- The fields of a node besides its type and its children. -/
structure Fields where
  /-- The text of a terminal node. -/
  value : Option String
  /-- The level of a heading. -/
  depth : Option UInt8
  /-- Whether a list is ordered. -/
  ordered : Option Bool
  /-- The first number of an ordered list. -/
  start : Option Nat
  /-- Whether blank lines separate list items. -/
  spread : Option Bool
  /-- An older spelling of `spread`. -/
  loose : Option Bool
  /-- The state of a task item. -/
  checked : Option Bool
  /-- The alignment of each table column. -/
  align : Option (List (Option Align))
  /-- The language of a code block. -/
  lang : Option String
  /-- The rest of the information of a code block. -/
  info : Option String
  identifier : Option String
  label : Option String
  url : Option String
  title : Option String
  alt : Option String
  /-- How a reference is written: `shortcut`, `collapsed` or `full`. -/
  referenceType : Option String
  position : Option Position
  /-- The fields outside the standard set. -/
  extra : Dict Json
deriving DecidableEq

/-- No field is set. -/
def Fields.none : Fields :=
  ⟨.none, .none, .none, .none, .none, .none, .none, .none, .none, .none, .none, .none, .none,
    .none, .none, .none, .none, .empty⟩

instance : Inhabited Fields := ⟨.none⟩

/-- A node of the markdown tree. -/
inductive Node where
  | mk (type : String) (fields : Fields) (children : List Node)
deriving Inhabited

namespace Node

/-- The type name. -/
def type : Node → String
  | mk t _ _ => t

/-- The fields besides type and children. -/
def fields : Node → Fields
  | mk _ f _ => f

/-- The children in document order. -/
def children : Node → List Node
  | mk _ _ cs => cs

/-- The standard kind of the node, if its type is a standard one. -/
def kind? (n : Node) : Option Kind := Kind.ofName? n.type

/-- Whether the node has the type of a standard kind. -/
def is (n : Node) (k : Kind) : Bool := n.type == k.name

/-- A node of a standard kind without fields. -/
def ofKind (k : Kind) (children : List Node) : Node := mk k.name .none children

/-- A childless node of a standard kind that carries a text. -/
def literal (k : Kind) (s : String) : Node := mk k.name { Fields.none with value := some s } []

/-- A text node without position. -/
def text (s : String) : Node := literal .text s

/-- Replaces the children. -/
def withChildren (n : Node) (cs : List Node) : Node := mk n.type n.fields cs

/-- Changes the fields. -/
def mapFields (n : Node) (f : Fields → Fields) : Node := mk n.type (f n.fields) n.children

/-- The text of a terminal node. -/
def value (n : Node) : Option String := n.fields.value

/-- The span of the node. -/
def position (n : Node) : Option Position := n.fields.position

/-! ## Document order -/

mutual

/-- The node and its descendants in document order. -/
def walk : Node → List Node
  | mk t f cs => mk t f cs :: walkAll cs

/-- The nodes of a list and their descendants in document order. -/
def walkAll : List Node → List Node
  | [] => []
  | n :: ns => walk n ++ walkAll ns

end

/-- The text that a node itself carries: its value, for an image without one its
alternative text. -/
def ownText (n : Node) : String :=
  match n.fields.value with
  | some v => v
  | none => if n.is .image then n.fields.alt.getD "" else ""

/-- The texts of a list of nodes in order. -/
def joinTexts (ns : List Node) : String := String.join (ns.map ownText)

/-- The text of a node and its descendants in document order. -/
def textContent (n : Node) : String := joinTexts n.walk

end Node

end Mdast

end PagePress
