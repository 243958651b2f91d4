import Mathlib.Data.List.Forall2
import PagePress.Proofs.Render.Places
import PagePress.Proofs.Render.Site
import PagePress.Proofs.Render.Tags

/-!
# Trace — where the elements of a tag come from

Only matchers make elements of tags that are not standard ones.  Such elements therefore trace
how a document is rendered: which nodes are, in which order, and what stops it.

* `StandsAs` is what may stand for a node in a role;
* `trace` predicts the elements of a tag, or the error, from the matchers alone;
* `Traces` is the invariant, `traces_of_children` its step from the children of a node to the
  node;
* `document_marks`: what this comes to for a document.
-/

namespace PagePress

namespace Render

open Mdast (Kind Align)
open View (Node tagged)

/-! ## Roles -/

/-- What may stand for a node in a role. -/
inductive StandsAs (p : Part) : Role → Slot → Prop where
  | own : StandsAs p .own p.slot
  | row {tag : String} (as : List (Option Align)) :
      tag ∈ ["th", "td"] → StandsAs p .row (rowSlot tag as p)
  | cell {tag : String} (a : Option Align) :
      tag ∈ ["th", "td"] →
        StandsAs p .cell (p.slotOr (p.content.map fun cs => some (cell tag a cs)))

section

variable {r : Registry} {defs : List (String × Mdast.Node)} {n : Mdast.Node} {role : Role}
  {x y : Slot}

/-- Where a matcher selects a node, its role does not matter. -/
theorem StandsAs.eq_of_chosen (hx : StandsAs (part r defs n) role x)
    (h : (part r defs n).chosen = some y) : x = y := by
  cases hx with
  | own =>
      rw [part_eq, assemble, Part.chosen] at h
      rw [part_eq, assemble, Part.slot, h, Option.getD_some]
  | row as _ => rw [rowSlot, Part.slotOr, h, Option.getD_some]
  | cell a _ => rw [Part.slotOr, h, Option.getD_some]

/-- What may stand for a list of nodes in a role. -/
def StandAllAs (r : Registry) (defs : List (String × Mdast.Node)) (role : Role) :
    List Mdast.Node → List Slot → Prop :=
  List.Forall₂ fun n x => StandsAs (part r defs n) role x

theorem StandAllAs.exists_of_mem {cs : List Mdast.Node} {xs : List Slot}
    (h : StandAllAs r defs role cs xs) {c : Mdast.Node} (hc : c ∈ cs) :
    ∃ x ∈ xs, StandsAs (part r defs c) role x := by
  induction h with
  | nil => cases hc
  | cons hx _ ih =>
      rcases List.mem_cons.1 hc with rfl | hc
      · exact ⟨_, List.mem_cons_self .., hx⟩
      · obtain ⟨x, hmem, hx⟩ := ih hc
        exact ⟨x, List.mem_cons_of_mem _ hmem, hx⟩

theorem StandAllAs.exists_of_mem_right {cs : List Mdast.Node} {xs : List Slot}
    (h : StandAllAs r defs role cs xs) {x : Slot} (hx : x ∈ xs) :
    ∃ c ∈ cs, StandsAs (part r defs c) role x := by
  induction h with
  | nil => cases hx
  | cons hy _ ih =>
      rcases List.mem_cons.1 hx with rfl | hx
      · exact ⟨_, List.mem_cons_self .., hy⟩
      · obtain ⟨c, hmem, hstands⟩ := ih hx
        exact ⟨c, List.mem_cons_of_mem _ hmem, hstands⟩

theorem standAllAs_own (cs : List Mdast.Node) :
    StandAllAs r defs .own cs ((cs.map (part r defs)).map Part.slot) := by
  rw [List.map_map, StandAllAs, List.forall₂_map_right_iff, List.forall₂_same]
  exact fun c _ => .own

theorem standAllAs_cells {tag : String} (htag : tag ∈ ["th", "td"]) {cs : List Mdast.Node} :
    ∀ {as : List (Option Align)},
      StandAllAs r defs .cell cs (cells tag as (cs.map (part r defs))) := by
  induction cs with
  | nil => exact .nil
  | cons c cs ih => exact .cons (.cell _ htag) ih

theorem standAllAs_rows (as : List (Option Align)) {cs : List Mdast.Node} :
    StandAllAs r defs .row cs (rowSlots as (cs.map (part r defs))) := by
  cases cs with
  | nil => exact .nil
  | cons c cs =>
      refine .cons (.row as (by decide)) ?_
      rw [List.map_map, List.forall₂_map_right_iff, List.forall₂_same]
      exact fun _ _ => .row as (by decide)

/-- Children without raw HTML among them are rendered one by one. -/
theorem content_of_no_html (h : ∀ c ∈ n.children, c.kind? ≠ some .html) :
    content n (n.children.map (part r defs)) =
      collect ((n.children.map (part r defs)).map Part.slot) := by
  have hany : (n.children.map (part r defs)).any (fun p => p.node.is .html) = false := by
    rw [List.any_map, List.any_eq_false]
    intro c hc hhtml
    rw [Function.comp_apply, part_node, Mdast.Node.is_iff] at hhtml
    exact h c hc hhtml
  rw [content, hany, Bool.and_false, if_neg Bool.false_ne_true]

end

/-! ## Traces -/

section

variable (r : Registry) (defs : List (String × Mdast.Node)) (tag : String)

mutual

/-- The elements of a tag that a node in a role comes to: those that a matcher makes of it, or
else those of its children.  The type is asked for in the role of its own only. -/
def trace (role : Role) : Mdast.Node → Except Error (List Node)
  | .mk t f cs =>
    match (part r defs (.mk t f cs)).chosen with
    | some x => x.map (marks tag)
    | none =>
      if role = .own ∧ (Mdast.Node.mk t f cs).kind? = none then .error (.unknownType t)
      else match childRole? defs role (.mk t f cs) with
        | some role' => traceAll role' cs
        | none => .ok []

/-- The elements of a tag that a list of nodes comes to, or the first error. -/
def traceAll (role : Role) : List Mdast.Node → Except Error (List Node)
  | [] => .ok []
  | n :: ns => do
    let ms ← trace role n
    let ms' ← traceAll role ns
    pure (ms ++ ms')

end

variable {r defs tag} {n : Mdast.Node} {role : Role}

theorem trace_of_chosen {x : Slot} (h : (part r defs n).chosen = some x) :
    trace r defs tag role n = x.map (marks tag) := by
  cases n with
  | mk t f cs => rw [trace, h]

theorem trace_of_unknown (hchosen : (part r defs n).chosen = none) (hkind : n.kind? = none) :
    trace r defs tag .own n = .error (.unknownType n.type) := by
  cases n with
  | mk t f cs =>
      rw [trace, hchosen]
      exact if_pos ⟨rfl, hkind⟩

theorem trace_of_childRole (hchosen : (part r defs n).chosen = none)
    (hkind : role = .own → n.kind?.isSome = true) :
    trace r defs tag role n = match childRole? defs role n with
      | some role' => traceAll r defs tag role' n.children
      | none => .ok [] := by
  cases n with
  | mk t f cs =>
      rw [trace, hchosen]
      refine if_neg ?_
      rintro ⟨hrole, hnone⟩
      have hsome := hkind hrole
      rw [hnone] at hsome
      cases hsome

theorem trace_row (hchosen : (part r defs n).chosen = none) :
    trace r defs tag .row n = traceAll r defs tag .cell n.children :=
  trace_of_childRole hchosen nofun

theorem trace_cell (hchosen : (part r defs n).chosen = none) :
    trace r defs tag .cell n = traceAll r defs tag .own n.children :=
  trace_of_childRole hchosen nofun

end

section

variable {r : Registry} {defs : List (String × Mdast.Node)} {tag : String} {n : Mdast.Node}
  (htag : tag ∉ standardTags)

include htag

/-- Slots in a row hold what each of them holds. -/
theorem collect_marks {role : Role} {cs : List Mdast.Node} {xs : List Slot}
    (h : List.Forall₂ (fun c x => x.map (marks tag) = trace r defs tag role c) cs xs) :
    (collect xs).map (tagged tag) = traceAll r defs tag role cs := by
  induction h with
  | nil => rfl
  | @cons c x cs xs hx _ ih =>
      calc (collect (x :: xs)).map (tagged tag)
          = (do
              let ms ← x.map (marks tag)
              let ms' ← (collect xs).map (tagged tag)
              pure (ms ++ ms')) := (tagGauge htag).map_collect_cons x xs
        _ = traceAll r defs tag role (c :: cs) := by rw [hx, ih, traceAll]

/-- A table keeps what its rows hold. -/
theorem table_marks {f : Mdast.Fields}
    (h : ∀ as, List.Forall₂ (fun c x => x.map (marks tag) = trace r defs tag .row c) n.children
      (rowSlots as (n.children.map (part r defs)))) :
    (table f (n.children.map (part r defs))).map (fun m => marks tag (some m)) =
      traceAll r defs tag .row n.children :=
  ((tagGauge htag).slot_table f _).trans (collect_marks htag (h _))

/-- A row keeps what its cells hold. -/
theorem row_marks {t : String} {as : List (Option Align)}
    (h : List.Forall₂ (fun c x => x.map (marks tag) = trace r defs tag .cell c) n.children
      (cells t as (n.children.map (part r defs)))) :
    (row t as (n.children.map (part r defs))).map (fun m => marks tag (some m)) =
      traceAll r defs tag .cell n.children :=
  ((tagGauge htag).slot_row t as _).trans (collect_marks htag h)

/-- Whatever stands for a node holds the elements that are traced to it. -/
def Traces (r : Registry) (defs : List (String × Mdast.Node)) (tag : String)
    (n : Mdast.Node) : Prop :=
  ∀ role x, StandsAs (part r defs n) role x → x.map (marks tag) = trace r defs tag role n

omit htag in
theorem StandAllAs.marks {role : Role} {cs : List Mdast.Node} {xs : List Slot}
    (hstand : StandAllAs r defs role cs xs) (h : ∀ c ∈ cs, Traces r defs tag c) :
    List.Forall₂ (fun c x => x.map (marks tag) = trace r defs tag role c) cs xs := by
  induction hstand with
  | nil => exact .nil
  | cons hx _ ih =>
      rw [List.forall_mem_cons] at h
      exact .cons (h.1 _ _ hx) (ih h.2)

/-- What a node's own type makes of it, tables and rows apart, is what its children come to. -/
theorem standard_marks {k : Kind} (hkind : n.kind? = some k) (hhtml : k ≠ .html)
    (htable : k ≠ .table) (hrow : k ≠ .tableRow)
    (hcontent : (content n (n.children.map (part r defs))).map (tagged tag) =
      traceAll r defs tag .own n.children) :
    (ofKind (site r defs n) k >>= Output.slot).map (marks tag) =
      match childRole? defs .own n with
      | some role => traceAll r defs tag role n.children
      | none => .ok [] := by
  have hrole : childRole? defs .own n = if showsContent defs n then some .own else none := by
    rw [childRole?, hkind]
    cases k <;> first | rfl | contradiction
  rw [ofKind_marks htag hkind rfl hhtml htable hrow, hrole, site_node]
  split
  · exact hcontent
  · rfl

/-- The step from the children of a node to the node itself. -/
theorem traces_of_children (hhtml : n.kind? ≠ some .html)
    (hplain : ∀ c ∈ n.children, c.kind? ≠ some .html)
    (h : ∀ c ∈ n.children, Traces r defs tag c) : Traces r defs tag n := by
  have hcontent : (content n (n.children.map (part r defs))).map (tagged tag) =
      traceAll r defs tag .own n.children := by
    rw [content_of_no_html hplain]
    exact collect_marks htag ((standAllAs_own n.children).marks h)
  intro role x hx
  -- A matcher decides in every role.  Without one, each role has a renderer of its own.
  cases hfind : r.find? n with
  | some m =>
      have hchosen := chosen_of_find?_some defs hfind
      rw [hx.eq_of_chosen hchosen, trace_of_chosen hchosen]
  | none =>
      have hchosen := chosen_of_find?_none defs hfind
      cases hx with
      | row as ht =>
          rw [rowSlot, Part.slotOr, hchosen, Option.getD_none, part_parts, map_map_some,
            trace_row hchosen]
          exact row_marks htag ((standAllAs_cells ht).marks h)
      | @cell t a ht =>
          rw [Part.slotOr, hchosen, Option.getD_none, part_content,
            trace_cell hchosen, ← hcontent]
          have ht' : t ∈ standardTags := by
            rcases List.mem_pair.1 ht with rfl | rfl <;> decide
          cases content n (n.children.map (part r defs)) with
          | error e => rfl
          | ok ns => exact congrArg Except.ok (marks_standard htag ht' _ ns)
      | own =>
          have hslot : (part r defs n).slot = standard (site r defs n) >>= Output.slot :=
            slot_of_find?_none _ hfind
          rw [hslot, standard]
          cases hkind : n.kind? with
          | none =>
              rw [trace_of_unknown hchosen hkind]
              simp only [site_node, hkind]
              rfl
          | some k =>
              rw [trace_of_childRole hchosen fun _ => by rw [hkind]; rfl]
              simp only [site_node, hkind]
              -- Tables and rows assemble other slots than those of their children.
              by_cases htable : k = .table
              · subst htable
                rw [ofKind, map_node_slot, map_map_some, childRole?]
                simp only [hkind]
                exact table_marks htag fun as => (standAllAs_rows as).marks h
              by_cases hrow : k = .tableRow
              · subst hrow
                rw [ofKind, map_node_slot, map_map_some, childRole?]
                simp only [hkind]
                exact row_marks htag ((standAllAs_cells (by decide)).marks h)
              refine standard_marks htag hkind ?_ htable hrow hcontent
              rintro rfl
              exact hhtml hkind

/-- Without raw HTML, whatever stands for a node holds the elements that are traced to it. -/
theorem traces_of_no_html (h : ∀ m ∈ n.walk, m.kind? ≠ some .html) : Traces r defs tag n := by
  refine Mdast.Node.of_forall_mem_walk (fun n hn hbelow => ?_) h n n.mem_walk_self
  have hchildren : ∀ c ∈ n.children, c.kind? ≠ some .html ∧ Traces r defs tag c :=
    fun c hc => hbelow c (Mdast.Node.mem_walkAll_of_mem hc)
  exact traces_of_children htag hn (fun c hc => (hchildren c hc).1) fun c hc => (hchildren c hc).2

/-- The elements of a tag in a document, or its error, are those that are traced. -/
theorem document_marks {root : Mdast.Node} (h : ∀ n ∈ root.walk, n.kind? ≠ some .html) :
    (document r root).map (fun t => tagged tag [t]) =
      trace r (definitions root) tag .own root := by
  rw [← traces_of_no_html htag h .own _ .own, document, slot]
  cases (part r (definitions root) root).slot with
  | error e => rfl
  | ok o =>
      cases o with
      | some n => rfl
      | none => exact congrArg Except.ok (marks_standard htag (by decide) _ _)

end

end Render

end PagePress
