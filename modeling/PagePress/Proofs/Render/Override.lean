import PagePress.Proofs.Render.Trace

/-!
# Override — where the renderer of a matcher is used

A registry of one matcher renders the nodes that its selector accepts and leaves the others to
the standard renderers.  An element that no standard renderer makes shows where it was used.

* `Marking` is a renderer's element of a tag that carries the text of its node;
* `trace_override`: the trace of a node are the accepted nodes that are reached from it through
  rendered ones that are not accepted;
* `override_marks`: the elements stand in the document once for each such node, in its order.
-/

namespace PagePress

namespace Render

open View (Node tagged)

/-- One element of a tag, which carries the text of the node that it is made for. -/
structure Marking (tag : String) (mark : Site → Node) : Prop where
  single : ∀ s, tagged tag [mark s] = [mark s]
  text : ∀ s, (mark s).textContent = s.node.textContent

/-- The registry whose only matcher puts an element in place of the nodes that it accepts. -/
def overriding (S : Selector) (mark : Site → Node) : Registry :=
  [⟨S, fun s => .ok (.node (mark s))⟩]

/-- The accepted nodes below and including a node, without accepted ones above them and with
ancestors only that render their children. -/
def overridden (S : Selector) (defs : List (String × Mdast.Node)) (n : Mdast.Node) :
    List Mdast.Node :=
  (n.reached fun a => !S.selects a && rendersChildren defs a).filter S.selects

section

variable {S : Selector} {mark : Site → Node} {defs : List (String × Mdast.Node)} {tag : String}
  {n : Mdast.Node}

theorem chosen_overriding (h : S.selects n = true) :
    (part (overriding S mark) defs n).chosen =
      some (.ok (some (mark (site (overriding S mark) defs n)))) := by
  have hfind : (overriding S mark).find? n = some ⟨S, fun s => .ok (.node (mark s))⟩ := by
    simp [Registry.find?, overriding, h]
  exact chosen_of_find?_some defs hfind

theorem chosen_overriding_none (h : S.selects n = false) :
    (part (overriding S mark) defs n).chosen = none := by
  have hfind : (overriding S mark).find? n = none := by simp [Registry.find?, overriding, h]
  exact chosen_of_find?_none defs hfind

theorem overridden_of_selects (h : S.selects n = true) : overridden S defs n = [n] := by
  rw [overridden, Mdast.Node.reached_eq, h, Bool.not_true, Bool.false_and,
    if_neg Bool.false_ne_true, List.filter_cons_of_pos h, List.filter_nil]

theorem overridden_of_not_selects (h : S.selects n = false) :
    overridden S defs n =
      if rendersChildren defs n then n.children.flatMap (overridden S defs) else [] := by
  rw [overridden, Mdast.Node.reached_eq, h, Bool.not_false, Bool.true_and,
    List.filter_cons_of_neg (by rw [h]; exact Bool.false_ne_true)]
  split
  · exact List.filter_flatMap
  · rfl

/-- The elements that are put in place of the accepted nodes. -/
def overrides (S : Selector) (mark : Site → Node) (defs : List (String × Mdast.Node))
    (ns : List Mdast.Node) : List Node :=
  ns.map fun n => mark (site (overriding S mark) defs n)

mutual

/-- The trace of a node that suits its role are the elements in place of the accepted nodes. -/
theorem trace_override (hmark : Marking tag mark) : ∀ {n : Mdast.Node} {role : Role},
    (∀ m ∈ n.walk, Tabular m) → (∀ m ∈ n.walk, m.kind?.isSome = true) → Suits role n →
    trace (overriding S mark) defs tag role n = .ok (overrides S mark defs (overridden S defs n))
  | .mk t f cs, role, htabular, hstandard, hsuits => by
    have hn : Tabular (.mk t f cs) := htabular _ (Mdast.Node.mem_walk_self _)
    have hbelow : ∀ m ∈ Mdast.Node.walkAll cs, m ∈ (Mdast.Node.mk t f cs).walk :=
      fun m hm => Mdast.Node.walkAll_children_subset (Mdast.Node.mem_walk_self _) m hm
    have hkind := hstandard _ (Mdast.Node.mem_walk_self _)
    cases hselects : S.selects (.mk t f cs) with
    | true =>
        -- What stands below an accepted node is not rendered.
        rw [trace_of_chosen (chosen_overriding hselects), overridden_of_selects hselects]
        exact congrArg Except.ok (hmark.single _)
    | false =>
        rw [trace_of_childRole (chosen_overriding_none hselects) fun _ => hkind,
          overridden_of_not_selects hselects, ← isSome_childRole? hsuits]
        cases hrole : childRole? defs role (.mk t f cs) with
        | none => rfl
        | some role' =>
            have hchildren : ∀ c ∈ cs, Suits role' c := hsuits.children hn hrole
            exact traceAll_override hmark (fun m hm => htabular m (hbelow m hm))
              (fun m hm => hstandard m (hbelow m hm)) hchildren

theorem traceAll_override (hmark : Marking tag mark) : ∀ {ns : List Mdast.Node} {role : Role},
    (∀ m ∈ Mdast.Node.walkAll ns, Tabular m) →
    (∀ m ∈ Mdast.Node.walkAll ns, m.kind?.isSome = true) → (∀ n ∈ ns, Suits role n) →
    traceAll (overriding S mark) defs tag role ns =
      .ok (overrides S mark defs (ns.flatMap (overridden S defs)))
  | [], _, _, _, _ => rfl
  | n :: ns, role, htabular, hstandard, hsuits => by
    rw [Mdast.Node.walkAll, List.forall_mem_append] at htabular hstandard
    rw [List.forall_mem_cons] at hsuits
    rw [traceAll, trace_override hmark htabular.1 hstandard.1 hsuits.1,
      traceAll_override hmark htabular.2 hstandard.2 hsuits.2, List.flatMap_cons]
    exact congrArg Except.ok List.map_append.symm

end

/-- The one matcher of a registry renders every node that its selector accepts and that is
rendered, once each and in document order: the elements it puts there are found in the document. -/
theorem override_marks {root : Mdast.Node} (hmark : Marking tag mark) (htag : tag ∉ standardTags)
    (hstandard : ∀ m ∈ root.walk, m.kind?.isSome = true)
    (hplain : ∀ m ∈ root.walk, m.kind? ≠ some .html)
    (htabular : ∀ m ∈ root.walk, Tabular m) :
    ∃ t, document (overriding S mark) root = .ok t ∧
      tagged tag [t] =
        overrides S mark (definitions root) (overridden S (definitions root) root) ∧
      (tagged tag [t]).map Node.textContent =
        (overridden S (definitions root) root).map Mdast.Node.textContent := by
  have htrace : trace (overriding S mark) (definitions root) tag .own root =
      .ok (overrides S mark (definitions root) (overridden S (definitions root) root)) :=
    trace_override hmark htabular hstandard trivial
  rw [← document_marks htag hplain] at htrace
  cases hdocument : document (overriding S mark) root with
  | error e =>
      rw [hdocument] at htrace
      cases htrace
  | ok t =>
      rw [hdocument] at htrace
      have hmarks : tagged tag [t] = overrides S mark (definitions root)
          (overridden S (definitions root) root) := Except.ok.inj htrace
      refine ⟨t, rfl, hmarks, ?_⟩
      rw [hmarks, overrides, List.map_map]
      exact List.map_congr_left fun n _ => hmark.text _

end

/-- An element that records the type and the text of its node. -/
def record (s : Site) : Node :=
  .element "x-node" (.ofList [("type", s.node.type)]) [.text s.node.textContent]

theorem record_marking : Marking "x-node" record :=
  ⟨fun _ => rfl, fun _ => String.append_empty ..⟩

/-- Strong text in a heading, in a tight task, in a cell and in a reference without definition,
and strong text in strong text. -/
def stressed : Mdast.Node :=
  .ofKind .root
    [.ofKind .heading [.text "a", .ofKind .strong [.text "b", .ofKind .strong [.text "c"]]],
      .ofKind .list
        [.mk "listItem" { Mdast.Fields.none with checked := some true }
          [.ofKind .paragraph [.ofKind .strong [.text "d"]]]],
      .ofKind .table
        [.ofKind .tableRow [.ofKind .tableCell [.text "e"]],
          .ofKind .tableRow [.ofKind .tableCell [.ofKind .strong [.text "f"]]]],
      .ofKind .paragraph [.ofKind .linkReference [.ofKind .strong [.text "g"]]]]

theorem stressed_marks :
    (∀ m ∈ stressed.walk, m.kind?.isSome = true) ∧ (∀ m ∈ stressed.walk, m.kind? ≠ some .html) ∧
      (∀ m ∈ stressed.walk, Tabular m) ∧
      ∃ t, document (overriding (.kind .strong) record) stressed = .ok t ∧
        (tagged "x-node" [t]).map Node.textContent = ["bc", "d", "f"] := by
  have hstandard : ∀ m ∈ stressed.walk, m.kind?.isSome = true := by decide +kernel
  have hplain : ∀ m ∈ stressed.walk, m.kind? ≠ some .html := by decide +kernel
  have htabular : ∀ m ∈ stressed.walk, Tabular m := by decide +kernel
  obtain ⟨t, ht, -, htexts⟩ :=
    override_marks (S := .kind .strong) record_marking (by decide) hstandard hplain htabular
  refine ⟨hstandard, hplain, htabular, t, ht, htexts.trans ?_⟩
  decide +kernel

end Render

end PagePress
