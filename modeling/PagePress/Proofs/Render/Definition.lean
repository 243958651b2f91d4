import PagePress.Proofs.Dictionary
import PagePress.Proofs.Mdast.Walk
import PagePress.Render.Document

/-!
# Definitions — what an identifier stands for

* `get?_enter`: a key keeps the value that it was first given;
* `lookup_foldl_define`: so do the identifiers of definitions that are entered one after the other;
* `definition?_eq_find?`: an identifier stands for the first of its definitions in document order.
-/

namespace PagePress

namespace Render

open Mdast (Node)

/-- Whether a node is a definition of an identifier, letter case aside. -/
def defines (i : String) (n : Node) : Bool :=
  n.is .definition && n.fields.identifier.any fun j => Text.toLower i == Text.toLower j

theorem get?_enter {α : Type} (k k' : String) (v : α) (es : List (String × α)) :
    Entries.get? k' (enter k v es) = (Entries.get? k' es).or (if k' = k then some v else none) := by
  unfold enter
  cases hk : Entries.get? k es with
  | some w =>
      by_cases hsame : k' = k
      · subst hsame
        rw [hk, Option.some_or]
      · rw [if_neg hsame, Option.or_none]
  | none => exact Entries.get?_append k' es [(k, v)]

/-- Entering definitions one after the other keeps what an identifier stood for before, and else
has it stand for the first that it names. -/
theorem lookup_foldl_define (i : String) (ns : List Node) (defs : List (String × Node)) :
    lookup (ns.foldl define defs) i = (lookup defs i).or
      (ns.find? fun n => n.fields.identifier.any fun j => Text.toLower i == Text.toLower j) := by
  induction ns generalizing defs with
  | nil => rw [List.foldl_nil, List.find?_nil, Option.or_none]
  | cons n ns ih =>
      have hstep : lookup (define defs n) i = (lookup defs i).or
          (if n.fields.identifier.any fun j => Text.toLower i == Text.toLower j
            then some n else none) := by
        unfold define
        cases n.fields.identifier with
        | none => exact Option.or_none.symm
        | some j =>
            rw [lookup, get?_enter]
            simp only [Option.any_some, beq_iff_eq]
            rfl
      rw [List.foldl_cons, ih, hstep, Option.or_assoc, List.find?_cons]
      cases n.fields.identifier.any fun j => Text.toLower i == Text.toLower j <;> rfl

/-- An identifier stands for the first of its definitions in document order. -/
theorem definition?_eq_find? (root : Node) (i : String) :
    definition? root i = root.walk.find? (defines i) := by
  rw [definition?, definitions, lookup_foldl_define, Node.visits_eq_walk, List.find?_filter]
  have hnone : lookup [] i = none := rfl
  rw [hnone, Option.none_or]
  congr 1
  funext n
  rw [defines, Bool.decide_and, Bool.decide_eq_true, Bool.decide_eq_true]

end Render

end PagePress
