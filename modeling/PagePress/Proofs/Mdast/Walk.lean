import PagePress.Mdast.Walk
import PagePress.Proofs.Mdast.Node

/-!
# Walks in document order

A walk keeps the nodes that it has come to on a stack, and still visits the whole tree in document
order.

* `next?_cons`: what one step does to the stack;
* `visits_eq_take`: the nodes visited in any number of steps are the first of what is below the
  stack;
* `visits_eq_walk`: a walk visits the nodes of a tree, each once, in document order.
-/

namespace PagePress

namespace Mdast

namespace Walk

/-- The children of the node on top take its place in their order. -/
theorem next?_cons (n : Node) (rest : List Node) :
    (Walk.mk (n :: rest)).next? = some (n, ⟨n.children ++ rest⟩) := by
  have hpush : ∀ (ns : List Node) (w : Walk), ns.reverse.foldl push w = ⟨ns ++ w.stack⟩ := by
    intro ns w
    induction ns with
    | nil => rfl
    | cons m ns ih => rw [List.reverse_cons, List.foldl_append, ih]; rfl
  exact congrArg (fun w => some (n, w)) (hpush n.children ⟨rest⟩)

/-- So many steps visit the first nodes, in document order, of what is on the stack or below. -/
theorem visits_eq_take (steps : Nat) (w : Walk) :
    w.visits steps = (Node.walkAll w.stack).take steps := by
  induction steps generalizing w with
  | zero => rfl
  | succ steps ih =>
      obtain ⟨stack⟩ := w
      cases stack with
      | nil => rfl
      | cons n rest =>
          cases n with
          | mk t f cs =>
              simp only [visits, next?_cons, ih]
              rw [Node.walkAll, Node.walk, Node.walkAll_append, List.cons_append,
                List.take_succ_cons]
              rfl

end Walk

namespace Node

mutual

theorem length_walk : ∀ n : Node, n.walk.length = n.count
  | .mk _ _ cs => by rw [walk, List.length_cons, length_walkAll cs, count]

theorem length_walkAll : ∀ ns : List Node, (walkAll ns).length = countAll ns
  | [] => rfl
  | n :: ns => by rw [walkAll, List.length_append, length_walk n, length_walkAll ns, countAll]

end

/-- A walk visits the nodes of a tree, each once, in document order. -/
theorem visits_eq_walk (n : Node) : n.visits = n.walk := by
  rw [visits, Walk.visits_eq_take, ← length_walk]
  change ((n.walk ++ []).take n.walk.length) = n.walk
  rw [List.append_nil, List.take_length]

end Node

end Mdast

end PagePress
