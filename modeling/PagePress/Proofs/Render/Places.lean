import PagePress.Proofs.Mdast.Lineage
import PagePress.Proofs.Render.Totality

/-!
# Places — which nodes are rendered, and as what

A node is rendered by its own type, except that what stands directly below a table is rendered as
a row and what stands directly below a row as a cell.

* `places` lists the nodes that are rendered, each with its `Role`, where no matcher interferes;
* `asked` are those whose type is asked;
* `map_snd_places`: where tables hold rows and rows hold cells, the rendered nodes are those all
  of whose ancestors are of a kind that renders its children.
-/

namespace PagePress

namespace Render

open Mdast (Kind)

/-! ## Roles -/

/-- What a node is rendered as. -/
inductive Role where
  /-- By its own type. -/
  | own
  /-- A row of a table, whatever its type. -/
  | row
  /-- A cell of a row, whatever its type. -/
  | cell
deriving DecidableEq, Repr

/-- What the children of a node are rendered as, if they are. -/
def childRole? (defs : List (String × Mdast.Node)) : Role → Mdast.Node → Option Role
  | .row, _ => some .cell
  | .cell, _ => some .own
  | .own, n =>
    match n.kind? with
    | some .table => some .row
    | some .tableRow => some .cell
    | _ => if showsContent defs n then some .own else none

/-! ## Places -/

section

variable (defs : List (String × Mdast.Node))

mutual

/-- The nodes that are rendered for a node in a role, in document order. -/
def places (role : Role) : Mdast.Node → List (Role × Mdast.Node)
  | .mk t f cs =>
    (role, .mk t f cs) ::
      match childRole? defs role (.mk t f cs) with
      | some role' => placesAll role' cs
      | none => []

/-- The nodes that are rendered for a list of nodes. -/
def placesAll (role : Role) : List Mdast.Node → List (Role × Mdast.Node)
  | [] => []
  | n :: ns => places role n ++ placesAll role ns

end

/-- The nodes in a list of places that are rendered by their own type. -/
def byType (xs : List (Role × Mdast.Node)) : List Mdast.Node :=
  (xs.filter fun x => x.1 == .own).map Prod.snd

/-- The nodes whose type is asked when a node is rendered in a role, in document order. -/
def asked (role : Role) (n : Mdast.Node) : List Mdast.Node := byType (places defs role n)

/-- Whether a node is of a kind that renders its children. -/
def rendersChildren (n : Mdast.Node) : Bool :=
  showsContent defs n || n.is .table || n.is .tableRow

end

theorem byType_cons_own (n : Mdast.Node) (xs : List (Role × Mdast.Node)) :
    byType ((.own, n) :: xs) = n :: byType xs := rfl

theorem byType_cons_of_ne {role : Role} (h : role ≠ .own) (n : Mdast.Node)
    (xs : List (Role × Mdast.Node)) : byType ((role, n) :: xs) = byType xs := by
  rw [byType, List.filter_cons_of_neg (by simpa using h)]
  rfl

theorem byType_append (xs ys : List (Role × Mdast.Node)) :
    byType (xs ++ ys) = byType xs ++ byType ys := by
  rw [byType, List.filter_append, List.map_append]
  rfl

/-! ## Tables -/

/-- A table holds rows, and a row holds cells. -/
structure Tabular (n : Mdast.Node) : Prop where
  rows : n.kind? = some .table → ∀ c ∈ n.children, c.kind? = some .tableRow
  cells : n.kind? = some .tableRow → ∀ c ∈ n.children, c.kind? = some .tableCell

instance (n : Mdast.Node) : Decidable (Tabular n) :=
  decidable_of_iff ((n.kind? = some .table → ∀ c ∈ n.children, c.kind? = some .tableRow) ∧
      (n.kind? = some .tableRow → ∀ c ∈ n.children, c.kind? = some .tableCell))
    ⟨fun h => ⟨h.1, h.2⟩, fun h => ⟨h.1, h.2⟩⟩

/-- A node is of the type that belongs to a role. -/
def Suits : Role → Mdast.Node → Prop
  | .own, _ => True
  | .row, n => n.kind? = some .tableRow
  | .cell, n => n.kind? = some .tableCell

section

variable {defs : List (String × Mdast.Node)} {n : Mdast.Node} {role : Role}

/-- In the roles of rows and cells only nodes of standard types suit. -/
theorem Suits.isSome_kind (h : Suits role n) (hrole : role ≠ .own) : n.kind?.isSome = true := by
  cases role with
  | own => exact absurd rfl hrole
  | row => exact Option.isSome_of_eq_some h
  | cell => exact Option.isSome_of_eq_some h

/-- Nodes that suit their roles render their children if they are of a kind that does. -/
theorem isSome_childRole? (h : Suits role n) :
    (childRole? defs role n).isSome = rendersChildren defs n := by
  have his : ∀ k, n.is k = true ↔ n.kind? = some k := fun k => Mdast.Node.is_iff
  cases role with
  | row => simp [childRole?, rendersChildren, (his .tableRow).2 h]
  | cell =>
      have hshows : showsContent defs n = true := by rw [showsContent, h]
      simp [childRole?, rendersChildren, hshows]
  | own =>
      rw [childRole?, rendersChildren]
      split
      · next hkind => simp [(his .table).2 hkind]
      · next hkind => simp [(his .tableRow).2 hkind]
      · next htable hrow =>
          have htable' : n.is .table = false := Bool.eq_false_iff.2 fun hn => htable ((his _).1 hn)
          have hrow' : n.is .tableRow = false := Bool.eq_false_iff.2 fun hn => hrow ((his _).1 hn)
          rw [htable', hrow', Bool.or_false, Bool.or_false]
          cases showsContent defs n <;> rfl

/-- The children of a node suit the role that they are rendered in. -/
theorem Suits.children (h : Suits role n) (hn : Tabular n) {role' : Role}
    (hrole : childRole? defs role n = some role') : ∀ c ∈ n.children, Suits role' c := by
  cases role with
  | row =>
      obtain rfl : Role.cell = role' := Option.some.inj hrole
      exact hn.cells h
  | cell =>
      obtain rfl : Role.own = role' := Option.some.inj hrole
      exact fun _ _ => trivial
  | own =>
      rw [childRole?] at hrole
      split at hrole
      · next hkind =>
          obtain rfl : Role.row = role' := Option.some.inj hrole
          exact hn.rows hkind
      · next hkind =>
          obtain rfl : Role.cell = role' := Option.some.inj hrole
          exact hn.cells hkind
      · obtain ⟨-, rfl⟩ : showsContent defs n = true ∧ Role.own = role' := by simpa using hrole
        exact fun _ _ => trivial

mutual

/-- Where tables hold rows and rows hold cells, the nodes that are rendered are reached from above
through kinds that render their children. -/
theorem map_snd_places : ∀ {n : Mdast.Node} {role : Role}, (∀ m ∈ n.walk, Tabular m) →
    Suits role n → (places defs role n).map Prod.snd = n.reached (rendersChildren defs)
  | .mk t f cs, role, htabular, hsuits => by
    have hn : Tabular (.mk t f cs) := htabular _ (Mdast.Node.mem_walk_self _)
    have hbelow : ∀ m ∈ Mdast.Node.walkAll cs, Tabular m := fun m hm =>
      htabular m (Mdast.Node.walkAll_children_subset (Mdast.Node.mem_walk_self _) m hm)
    -- Where a node suits its role, what it passes on depends on its kind alone.
    rw [places, Mdast.Node.reached_eq, ← isSome_childRole? hsuits, List.map_cons]
    cases hrole : childRole? defs role (.mk t f cs) with
    | none => rfl
    | some role' =>
        have hchildren := map_snd_placesAll hbelow (hsuits.children hn hrole)
        exact congrArg (List.cons _) hchildren

theorem map_snd_placesAll : ∀ {ns : List Mdast.Node} {role : Role},
    (∀ m ∈ Mdast.Node.walkAll ns, Tabular m) → (∀ n ∈ ns, Suits role n) →
    (placesAll defs role ns).map Prod.snd = ns.flatMap (Mdast.Node.reached (rendersChildren defs))
  | [], _, _, _ => rfl
  | n :: ns, role, htabular, hsuits => by
    rw [Mdast.Node.walkAll, List.forall_mem_append] at htabular
    rw [List.forall_mem_cons] at hsuits
    rw [placesAll, List.map_append, map_snd_places htabular.1 hsuits.1,
      map_snd_placesAll htabular.2 hsuits.2, List.flatMap_cons]

end

mutual

/-- There every node that is rendered suits its role. -/
theorem suits_of_mem_places : ∀ {n : Mdast.Node} {role : Role}, (∀ m ∈ n.walk, Tabular m) →
    Suits role n → ∀ x ∈ places defs role n, Suits x.1 x.2
  | .mk t f cs, role, htabular, hsuits, x, hx => by
    have hn : Tabular (.mk t f cs) := htabular _ (Mdast.Node.mem_walk_self _)
    have hbelow : ∀ m ∈ Mdast.Node.walkAll cs, Tabular m := fun m hm =>
      htabular m (Mdast.Node.walkAll_children_subset (Mdast.Node.mem_walk_self _) m hm)
    rw [places] at hx
    rcases List.mem_cons.1 hx with rfl | hx
    · exact hsuits
    cases hrole : childRole? defs role (.mk t f cs) with
    | none =>
        rw [hrole] at hx
        cases hx
    | some role' =>
        rw [hrole] at hx
        exact suits_of_mem_placesAll hbelow (hsuits.children hn hrole) x hx

theorem suits_of_mem_placesAll : ∀ {ns : List Mdast.Node} {role : Role},
    (∀ m ∈ Mdast.Node.walkAll ns, Tabular m) → (∀ n ∈ ns, Suits role n) →
    ∀ x ∈ placesAll defs role ns, Suits x.1 x.2
  | [], _, _, _, _, hx => nomatch hx
  | n :: ns, role, htabular, hsuits, x, hx => by
    rw [Mdast.Node.walkAll, List.forall_mem_append] at htabular
    rw [List.forall_mem_cons] at hsuits
    rw [placesAll, List.mem_append] at hx
    rcases hx with hx | hx
    · exact suits_of_mem_places htabular.1 hsuits.1 x hx
    · exact suits_of_mem_placesAll htabular.2 hsuits.2 x hx

end

/-- There the first node without a standard type among those that are asked is the first among
all that are rendered. -/
theorem find?_asked (htabular : ∀ m ∈ n.walk, Tabular m) (hsuits : Suits role n) :
    (asked defs role n).find? (fun m => m.kind?.isNone) =
      (n.reached (rendersChildren defs)).find? fun m => m.kind?.isNone := by
  rw [← map_snd_places htabular hsuits, asked, byType, ← List.head?_filter, ← List.head?_filter,
    List.filter_map, List.filter_map, List.filter_filter]
  refine congrArg (fun xs => (List.map Prod.snd xs).head?) (List.filter_congr fun x hx => ?_)
  -- The nodes that are not asked are rows and cells, which are of standard types.
  have hx' := suits_of_mem_places htabular hsuits x hx
  by_cases hrole : x.1 = .own
  · simp [hrole]
  · have hkind := hx'.isSome_kind hrole
    rw [Option.isSome_iff_ne_none] at hkind
    simp [hrole, hkind]

end

end Render

end PagePress
