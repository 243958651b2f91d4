import PagePress.Mdast.Node

/-!
# Walks — a tree in document order, a node at a time

* `Walk` holds the nodes that are still to be visited, `Walk.next?` visits one of them;
* `Node.visits` lists the nodes that a walk from a node visits.
-/

namespace PagePress

namespace Mdast

/-- The nodes that a walk has come to and not visited yet; the next one stands on top. -/
structure Walk where
  stack : List Node

namespace Walk

/-- A walk that begins at a node. -/
def ofNode (n : Node) : Walk := ⟨[n]⟩

/-- Puts a node on top. -/
def push (w : Walk) (n : Node) : Walk := ⟨n :: w.stack⟩

/-- Visits the node on top.  Its children take its place, pushed from the last to the first. -/
def next? (w : Walk) : Option (Node × Walk) :=
  match w.stack with
  | [] => none
  | n :: rest => some (n, n.children.reverse.foldl push ⟨rest⟩)

/-- The nodes that are visited in so many steps, unless the walk ends before. -/
def visits : Nat → Walk → List Node
  | 0, _ => []
  | steps + 1, w =>
    match w.next? with
    | none => []
    | some (n, w') => n :: visits steps w'

end Walk

namespace Node

mutual

/-- The number of nodes in a tree. -/
def count : Node → Nat
  | mk _ _ cs => countAll cs + 1

/-- The number of nodes in a list of trees. -/
def countAll : List Node → Nat
  | [] => 0
  | n :: ns => count n + countAll ns

end

/-- The nodes that a walk from a node visits.  No node is visited twice, so that there are enough
steps. -/
def visits (n : Node) : List Node := (Walk.ofNode n).visits n.count

end Node

end Mdast

end PagePress
