import PagePress.Proofs.View.Tidy

/-!
# Elements — the elements of a view tree in document order

* `Node.elements` lists the elements of a node, itself included;
* `tagged` lists those of one tag in a list of nodes;
* `tagged_element`: an element of another tag only passes on what its children hold.
-/

namespace PagePress

namespace View

namespace Node

mutual

/-- The elements of a node in document order, the node itself first. -/
def elements : Node → List Node
  | element t as cs => element t as cs :: elementsAll cs
  | text _ => []

/-- The elements of a list of nodes in document order. -/
def elementsAll : List Node → List Node
  | [] => []
  | n :: ns => elements n ++ elementsAll ns

end

theorem elementsAll_eq_flatMap (ns : List Node) : elementsAll ns = ns.flatMap elements := by
  induction ns with
  | nil => rfl
  | cons n ns ih => rw [elementsAll, ih, List.flatMap_cons]

theorem elementsAll_append (ms ns : List Node) :
    elementsAll (ms ++ ns) = elementsAll ms ++ elementsAll ns := by
  simp [elementsAll_eq_flatMap]

theorem mem_elementsAll {x : Node} {ns : List Node} :
    x ∈ elementsAll ns ↔ ∃ n ∈ ns, x ∈ n.elements := by
  rw [elementsAll_eq_flatMap, List.mem_flatMap]

/-- An element is the first of its own elements. -/
theorem mem_elements_self {n : Node} (h : n.isElement = true) : n ∈ n.elements := by
  cases n with
  | text s => cases h
  | element t as cs => exact List.mem_cons_self ..

end Node

/-! ## Elements of one tag -/

/-- The elements of a tag in a list of nodes, in document order. -/
def tagged (tag : String) (ns : List Node) : List Node :=
  (Node.elementsAll ns).filter fun n => n.tag? == some tag

section

variable {tag : String}

@[simp]
theorem tagged_append (ms ns : List Node) :
    tagged tag (ms ++ ns) = tagged tag ms ++ tagged tag ns := by
  rw [tagged, Node.elementsAll_append, List.filter_append]
  rfl

/-- An element of another tag holds what its children hold. -/
theorem tagged_element {t : String} {as : Dict String} {cs : List Node} (h : t ≠ tag) :
    tagged tag [.element t as cs] = tagged tag cs := by
  simp [tagged, Node.elementsAll, Node.elements, Node.tag?, h]

end

end View

end PagePress
