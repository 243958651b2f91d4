import PagePress.Proofs.Fallible
import PagePress.Proofs.Render.Definition
import PagePress.Proofs.Render.InlineMarkup

/-!
# Sites — what the renderer of a node sees

* `site` is what is shown of a node to the matcher that selects it, or to the standard renderer;
* `chosen_of_find?_some` and `slot_of_find?_none`: these are the two ways in which a node is
  rendered;
* `collect_eq_ok`: nodes are collected if every slot is filled without an error;
* `mem_walk_of_referent?`: the definitions that it shows are nodes of the document.
-/

namespace PagePress

namespace Render

variable (r : Registry) (defs : List (String × Mdast.Node))

/-- What the renderer of a node sees. -/
def site (n : Mdast.Node) : Site :=
  ⟨n, content n (n.children.map (part r defs)), n.children.map (part r defs), lookup defs⟩

@[simp]
theorem site_node (n : Mdast.Node) : (site r defs n).node = n := rfl

variable {r} {n : Mdast.Node}

/-- A node is rendered by the first matcher that selects it, in the usual place or another. -/
theorem chosen_of_find?_some {m : Matcher} (h : r.find? n = some m) :
    (part r defs n).chosen = some (m.render (site r defs n) >>= Output.slot) := by
  rw [part_eq, assemble, Part.chosen, h]
  rfl

theorem chosen_of_find?_none (h : r.find? n = none) : (part r defs n).chosen = none := by
  rw [part_eq, assemble, Part.chosen, h]
  rfl

/-- A node that no matcher selects is rendered in the standard way. -/
theorem slot_of_find?_none (h : r.find? n = none) :
    slot r defs n = standard (site r defs n) >>= Output.slot := by
  rw [slot, part_eq, assemble, Part.slot, h]
  rfl

/-! ## Slots -/

/-- Nodes are collected if every slot is filled without an error, and then they are those in the
slots. -/
theorem collect_eq_ok {xs : List Slot} :
    ∀ {ns : List View.Node}, collect xs = .ok ns ↔
      (∀ x ∈ xs, ∃ o, x = .ok o) ∧ ns = xs.filterMap fun x => x.toOption.join := by
  induction xs with
  | nil =>
      intro ns
      rw [collect, Except.ok.injEq]
      simp [eq_comm]
  | cons x xs ih =>
      intro ns
      rw [collect, Fallible.bind_eq_ok, List.forall_mem_cons]
      constructor
      · rintro ⟨o, rfl, htail⟩
        obtain ⟨ms, hrest, hall⟩ := Fallible.bind_eq_ok.1 htail
        obtain rfl : o.toList ++ ms = ns := Except.ok.inj hall
        obtain ⟨hfilled, rfl⟩ := ih.1 hrest
        exact ⟨⟨⟨o, rfl⟩, hfilled⟩, by cases o <;> rfl⟩
      · rintro ⟨⟨⟨o, rfl⟩, hfilled⟩, rfl⟩
        refine ⟨o, rfl, Fallible.bind_eq_ok.2 ⟨_, ih.2 ⟨hfilled, rfl⟩, ?_⟩⟩
        cases o <;> rfl

/-! ## Definitions -/

/-- What an identifier stands for in a document is a node of this document. -/
theorem mem_walk_of_definition? {root d : Mdast.Node} {i : String}
    (h : definition? root i = some d) : d ∈ root.walk := by
  rw [definition?_eq_find?] at h
  exact List.mem_of_find?_eq_some h

/-- So is what a node of a document refers to. -/
theorem mem_walk_of_referent? {root d : Mdast.Node} (h :
    (site r (definitions root) n).referent? = some d) : d ∈ root.walk := by
  obtain ⟨i, -, hi⟩ := Option.bind_eq_some_iff.1 h
  exact mem_walk_of_definition? hi

end Render

end PagePress
