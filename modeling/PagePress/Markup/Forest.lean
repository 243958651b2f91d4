import PagePress.Markup.Token
import PagePress.View.Node

/-!
# From markup to the view tree

* `Forest.ofTokens` builds the top-level nodes from tokens: void elements close at once, an
  end tag closes the innermost open element of its name with everything opened inside it, an
  end tag without such an element is dropped, and adjacent texts become one;
* `parse?` reads markup text.
-/

namespace PagePress

namespace Markup

open View (Node)

/-! ## Open elements -/

/-- An element that is still open; `earlier` holds the siblings before it in reverse. -/
structure OpenElement where
  tag : String
  attrs : Dict String
  earlier : List Node

/-- The open elements, innermost first, and the nodes read so far inside the innermost one,
in reverse. -/
structure Forest where
  opened : List OpenElement
  nodes : List Node

namespace Forest

/-- Nothing is read. -/
def start : Forest := ⟨[], []⟩

/-- Adds a node. -/
def push (f : Forest) (n : Node) : Forest := { f with nodes := n :: f.nodes }

/-- Adds a text, joining it to a text before it. -/
def pushText (f : Forest) (s : String) : Forest :=
  if s.isEmpty then f
  else
    match f.nodes with
    | .text t :: earlier => { f with nodes := .text (t ++ s) :: earlier }
    | nodes => { f with nodes := .text s :: nodes }

/-- Closes open elements up to and with the innermost one whose tag passes. -/
def closeThrough (p : String → Bool) : List OpenElement → List Node → Forest
  | [], nodes => ⟨[], nodes⟩
  | e :: rest, nodes =>
    let closed := .element e.tag e.attrs nodes.reverse :: e.earlier
    if p e.tag then ⟨rest, closed⟩ else closeThrough p rest closed

/-- Reads one token. -/
def step (f : Forest) : Token → Forest
  | .text s => f.pushText s
  | .empty t as => f.push (.element t as [])
  | .open t as =>
    if View.isVoid t then f.push (.element t as [])
    else ⟨⟨t, as, f.nodes⟩ :: f.opened, []⟩
  | .close t =>
    if f.opened.any (·.tag == t) then closeThrough (· == t) f.opened f.nodes else f

/-- Closes every open element. -/
def finish (f : Forest) : List Node :=
  (closeThrough (fun _ => false) f.opened f.nodes).nodes.reverse

/-- The top-level nodes that tokens build. -/
def ofTokens (tokens : List Token) : List Node := (tokens.foldl step start).finish

end Forest

/-! ## Reading -/

/-- The top-level nodes of markup text; none if some markup is unfinished or misshapen. -/
def parseChars? (cs : List Char) : Option (List Node) :=
  (Token.ofChars? (escapeStray cs)).map Forest.ofTokens

/-- The top-level nodes of markup text. -/
def parse? (markup : String) : Option (List Node) := parseChars? markup.toList

end Markup

end PagePress
