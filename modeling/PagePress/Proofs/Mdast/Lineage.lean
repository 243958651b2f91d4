import PagePress.Proofs.Mdast.Node

/-!
# Lineage — nodes with what stands above them

* `Node.lineage` lists the nodes of a tree in document order, each with its proper ancestors;
* `Node.reached` are those nodes of which every proper ancestor passes a test;
* `reached_eq`: a node is reached, and behind it what is reached from its children if it passes.
-/

namespace PagePress

namespace Mdast

namespace Node

mutual

/-- A node and its descendants in document order, each with its proper ancestors, the nearest
first; `above` stands above the node itself. -/
def lineage (above : List Node) : Node → List (List Node × Node)
  | mk t f cs => (above, mk t f cs) :: lineageAll (mk t f cs :: above) cs

/-- The nodes of a list and their descendants, each with its proper ancestors. -/
def lineageAll (above : List Node) : List Node → List (List Node × Node)
  | [] => []
  | n :: ns => lineage above n ++ lineageAll above ns

end

/-! ## Reached nodes -/

/-- The nodes of a tree all of whose proper ancestors pass a test, in document order. -/
def reached (p : Node → Bool) (n : Node) : List Node :=
  ((lineage [] n).filter fun x => x.1.all p).map Prod.snd

section

variable (p : Node → Bool)

mutual

/-- What stands above a tree lets all of it pass or nothing. -/
theorem filter_lineage (above : List Node) : ∀ n : Node,
    ((lineage above n).filter fun x => x.1.all p).map Prod.snd =
      if above.all p then reached p n else []
  | mk t f cs => by
    have hbelow := filter_lineageAll (mk t f cs :: above) cs
    have hbelow' := filter_lineageAll [mk t f cs] cs
    rw [reached, lineage, lineage]
    by_cases habove : above.all p = true
    · rw [List.filter_cons_of_pos (by simpa using habove), List.filter_cons_of_pos (by simp),
        List.map_cons, List.map_cons, hbelow, hbelow', if_pos habove]
      simp [habove]
    · rw [List.filter_cons_of_neg (by simpa using habove), hbelow, if_neg habove,
        if_neg (by simp [habove])]

theorem filter_lineageAll (above : List Node) : ∀ ns : List Node,
    ((lineageAll above ns).filter fun x => x.1.all p).map Prod.snd =
      if above.all p then ns.flatMap (reached p) else []
  | [] => by simp [lineageAll]
  | n :: ns => by
    rw [lineageAll, List.filter_append, List.map_append, filter_lineage above n,
      filter_lineageAll above ns]
    split <;> simp

end

variable {p}

/-- A node is reached, and behind it what is reached from its children if it passes. -/
theorem reached_eq (n : Node) :
    reached p n = n :: if p n then n.children.flatMap (reached p) else [] := by
  cases n with
  | mk t f cs =>
      rw [reached, lineage, List.filter_cons_of_pos (by simp), List.map_cons, filter_lineageAll]
      simp [children]

end

end Node

end Mdast

end PagePress
