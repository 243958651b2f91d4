import PagePress.Mdast.Walk
import PagePress.Render.Standard
import PagePress.Text.Case

/-!
# Rendering a document

* `definitions` are collected on a walk through the document, the first of an identifier counting;
* `definition?` finds what an identifier stands for in a document;
* `part` renders a node and its descendants, each by the first matcher that selects it or in
  the standard way;
* `document` is the view tree of a whole document.
-/

namespace PagePress

namespace Render

/-! ## Definitions -/

/-- Enters a value under a key that has none yet. -/
def enter {α : Type} (k : String) (v : α) (es : List (String × α)) : List (String × α) :=
  match Entries.get? k es with
  | some _ => es
  | none => es ++ [(k, v)]

/-- Enters a definition by the lower-case form of its identifier, if it has one. -/
def define (defs : List (String × Mdast.Node)) (n : Mdast.Node) : List (String × Mdast.Node) :=
  match n.fields.identifier with
  | some i => enter (Text.toLower i) n defs
  | none => defs

/-- The definitions of a document by the lower-case form of their identifiers. -/
def definitions (root : Mdast.Node) : List (String × Mdast.Node) :=
  (root.visits.filter fun n => n.is .definition).foldl define []

/-- The definition of an identifier, letter case aside. -/
def lookup (defs : List (String × Mdast.Node)) (identifier : String) : Option Mdast.Node :=
  Entries.get? (Text.toLower identifier) defs

/-- What an identifier stands for in a document. -/
def definition? (root : Mdast.Node) : String → Option Mdast.Node := lookup (definitions root)

/-! ## Nodes -/

/-- Renders a node whose children are rendered. -/
def assemble (r : Registry) (defs : List (String × Mdast.Node)) (n : Mdast.Node)
    (parts : List Part) : Part :=
  let site : Site := ⟨n, content n parts, parts, lookup defs⟩
  let chosen := (r.find? n).map fun m => m.render site >>= Output.slot
  .mk n chosen (chosen.getD (standard site >>= Output.slot)) site.content parts

mutual

/-- Renders a node and its descendants. -/
def part (r : Registry) (defs : List (String × Mdast.Node)) : Mdast.Node → Part
  | .mk t f cs => assemble r defs (.mk t f cs) (parts r defs cs)

/-- Renders a list of nodes and their descendants. -/
def parts (r : Registry) (defs : List (String × Mdast.Node)) : List Mdast.Node → List Part
  | [] => []
  | n :: ns => part r defs n :: parts r defs ns

end

/-- What a node leaves in its place. -/
def slot (r : Registry) (defs : List (String × Mdast.Node)) (n : Mdast.Node) : Slot :=
  (part r defs n).slot

/-! ## Documents -/

/-- The view tree of a document; one that renders to nothing is an empty container. -/
def document (r : Registry) (root : Mdast.Node) : Except Error View.Node :=
  (slot r (definitions root) root).map fun n => n.getD (.plain containerTag [])

end Render

end PagePress
