import PagePress.Proofs.Render.Trace

/-!
# Text — rendering loses, repeats and moves no text

Rendering puts line feeds and blanks between the texts of a document, and it takes the nodes of a
document apart and puts them together again.

* `dense` is a text without its spaces and line feeds, and `textGauge` reads the dense text of
  view nodes;
* `Textual` says which nodes are rendered to their text: any of the kinds `textKinds`, where only
  texts and code carry a value, and with rows and cells in tables only;
* `Carries` is the invariant, `carries_of_children` its step from the children of a node to the
  node;
* `document_keeps_text`: the dense text of a document is that of its view tree.
-/

namespace PagePress

namespace View

namespace Node

theorem textContentAll_append (ms ns : List Node) :
    textContentAll (ms ++ ns) = textContentAll ms ++ textContentAll ns := by
  induction ms with
  | nil => simp [textContentAll]
  | cons m ms ih => rw [List.cons_append, textContentAll, textContentAll, ih, String.append_assoc]

end Node

end View

namespace Render

open Mdast (Kind)
open View (Node)

/-! ## Dense texts -/

/-- The characters of a text but spaces and line feeds. -/
def dense (s : String) : List Char := s.toList.filter fun c => !(c == ' ' || c == '\n')

theorem dense_append (s t : String) : dense (s ++ t) = dense s ++ dense t := by
  simp [dense]

theorem dense_join (ss : List String) : dense (String.join ss) = ss.flatMap dense := by
  rw [dense, String.toList_join, List.filter_flatMap]
  rfl

/-- The dense text of view nodes. -/
def textGauge : Gauge Char where
  measure ns := dense (Node.textContentAll ns)
  measure_append ms ns := by rw [Node.textContentAll_append, dense_append]
  measure_blank := by decide
  measure_element t _ as cs := by
    rw [Node.textContentAll, Node.textContent, Node.textContentAll, String.append_empty]

theorem slot_textGauge (n : Node) : textGauge.slot (some n) = dense n.textContent := by
  show dense (n.textContent ++ "") = dense n.textContent
  rw [String.append_empty]

theorem slot_codeBlock (f : Mdast.Fields) :
    textGauge.slot (some (codeBlock f)) = dense (f.value.getD "") := by
  have hfeed : dense "\n" = [] := by decide
  calc textGauge.slot (some (codeBlock f))
      = textGauge.slot (some (.text (f.value.getD "" ++ "\n"))) :=
        (textGauge.measure_element "pre" (by decide) _ _).trans
          (textGauge.measure_element "code" (by decide) _ _)
    _ = dense (f.value.getD "") := by
        rw [slot_textGauge, Node.textContent, dense_append, hfeed, List.append_nil]

/-- The dense text of a node is its own one, and behind it those of its children. -/
theorem dense_textContent (n : Mdast.Node) :
    dense n.textContent =
      dense n.ownText ++ n.children.flatMap fun c => dense c.textContent := by
  rw [n.textContent_eq, dense_append, dense_join, List.flatMap_map]

/-! ## Textual nodes -/

/-- The kinds of nodes that are rendered to their text. -/
def textKinds : List Kind :=
  [.root, .paragraph, .heading, .blockquote, .list, .listItem, .table, .tableRow, .tableCell,
    .footnoteDefinition, .footnote, .emphasis, .strong, .delete, .link, .break, .thematicBreak,
    .text, .inlineCode, .code]

/-- A node that is rendered to its text. -/
structure Textual (n : Mdast.Node) : Prop where
  kind : ∃ k ∈ textKinds, n.kind? = some k
  value : n.value ≠ none → n.kind? ∈ [some .text, some .inlineCode, some .code]
  leaf : n.kind? ∈ [some .text, some .inlineCode, some .code, some .break, some .thematicBreak] →
    n.children = []
  tabular : Tabular n

instance (n : Mdast.Node) : Decidable (Textual n) :=
  decidable_of_iff ((∃ k ∈ textKinds, n.kind? = some k) ∧
      (n.value ≠ none → n.kind? ∈ [some .text, some .inlineCode, some .code]) ∧
      (n.kind? ∈ [some .text, some .inlineCode, some .code, some .break, some .thematicBreak] →
        n.children = []) ∧ Tabular n)
    ⟨fun h => ⟨h.1, h.2.1, h.2.2.1, h.2.2.2⟩, fun h => ⟨h.1, h.2, h.3, h.4⟩⟩

variable {defs : List (String × Mdast.Node)} {n : Mdast.Node}

theorem Textual.not_html (h : Textual n) : n.kind? ≠ some .html := by
  obtain ⟨k, hk, hkind⟩ := h.kind
  rw [hkind]
  rintro ⟨⟩
  exact absurd hk (by decide)

/-- The text of such a node is its value, and behind it the texts of its children. -/
theorem Textual.dense_textContent (h : Textual n) :
    dense n.textContent =
      dense (n.value.getD "") ++ n.children.flatMap fun c => dense c.textContent := by
  have hown : n.ownText = n.value.getD "" := by
    obtain ⟨k, hk, hkind⟩ := h.kind
    have himage : n.is .image = false := by
      rw [Bool.eq_false_iff, ne_eq, Mdast.Node.is_iff, hkind]
      rintro ⟨⟩
      exact absurd hk (by decide)
    rw [Mdast.Node.ownText, Mdast.Node.value, himage]
    cases n.fields.value <;> rfl
  rw [Render.dense_textContent, hown]

/-! ## Carried texts -/

/-- Whatever may stand for a node in a role that it suits holds its dense text. -/
def Carries (defs : List (String × Mdast.Node)) (n : Mdast.Node) : Prop :=
  ∀ role x, Suits role n → StandsAs (part [] defs n) role x →
    x.map textGauge.slot = .ok (dense n.textContent)

theorem StandAllAs.carry {role : Role} {cs : List Mdast.Node} {xs : List Slot}
    (hstand : StandAllAs [] defs role cs xs) (hsuits : ∀ c ∈ cs, Suits role c)
    (h : ∀ c ∈ cs, Carries defs c) :
    (collect xs).map textGauge.measure = .ok (cs.flatMap fun c => dense c.textContent) := by
  refine textGauge.measure_collect ?_
  induction hstand with
  | nil => exact .nil
  | cons hx _ ih =>
      rw [List.forall_mem_cons] at h hsuits
      exact .cons (h.1 _ _ hsuits.1 hx) (ih hsuits.2 h.2)

theorem carries_row (h : ∀ c ∈ n.children, Carries defs c) (hn : Textual n)
    (hkind : n.kind? = some .tableRow) {tag : String} (htag : tag ∈ ["th", "td"])
    (as : List (Option Mdast.Align)) :
    (row tag as (n.children.map (part [] defs))).map (fun m => textGauge.slot (some m)) =
      .ok (n.children.flatMap fun c => dense c.textContent) :=
  (textGauge.slot_row tag as _).trans
    ((standAllAs_cells htag).carry (hn.tabular.cells hkind) h)

theorem carries_table (h : ∀ c ∈ n.children, Carries defs c) (hn : Textual n)
    (hkind : n.kind? = some .table) :
    (table n.fields (n.children.map (part [] defs))).map (fun m => textGauge.slot (some m)) =
      .ok (n.children.flatMap fun c => dense c.textContent) :=
  (textGauge.slot_table n.fields _).trans
    ((standAllAs_rows _).carry (hn.tabular.rows hkind) h)

/-- The step from the children of a node to the node itself. -/
theorem carries_of_children (hn : Textual n) (hplain : ∀ c ∈ n.children, c.kind? ≠ some .html)
    (h : ∀ c ∈ n.children, Carries defs c) : Carries defs n := by
  have hcontent : (content n (n.children.map (part [] defs))).map textGauge.measure =
      .ok (n.children.flatMap fun c => dense c.textContent) := by
    rw [content_of_no_html hplain]
    exact (standAllAs_own n.children).carry (fun _ _ => trivial) h
  have htext := hn.dense_textContent
  -- A node that carries no value has the text of its children only.
  have hbelow (hvalue : n.kind? ∉ [some .text, some .inlineCode, some .code]) :
      dense n.textContent = n.children.flatMap fun c => dense c.textContent := by
    have hnone : n.value = none := by
      by_contra hsome
      exact hvalue (hn.value hsome)
    rw [htext, hnone]
    rfl
  intro role x hsuits hx
  -- What may stand for a node: a row or a cell where a table asks for one, and else its slot.
  cases hx with
  | row as htag =>
      have hkind : n.kind? = some .tableRow := hsuits
      rw [rowSlot, Part.slotOr, part_chosen, Option.getD_none, part_parts, map_map_some,
        hbelow (by simp [hkind])]
      exact carries_row h hn hkind htag as
  | @cell tag a htag =>
      have hkind : n.kind? = some .tableCell := hsuits
      have hstandard : ∀ t ∈ ["th", "td"], t ∈ standardTags := by decide
      rw [Part.slotOr, part_chosen, Option.getD_none, part_content, hbelow (by simp [hkind]),
        ← hcontent]
      cases content n (n.children.map (part [] defs)) with
      | error e => rfl
      | ok ns =>
          exact congrArg Except.ok (textGauge.measure_element tag (hstandard tag htag) _ ns)
  | own =>
      have hslot : (part [] defs n).slot = standard (site [] defs n) >>= Output.slot :=
        slot_of_find?_none _ rfl
      obtain ⟨k, hk, hkind⟩ := hn.kind
      have hleaf (hchildren : n.children = []) : dense n.textContent = dense (n.value.getD "") := by
        rw [htext, hchildren, List.flatMap_nil, List.append_nil]
      rw [hslot, standard]
      simp only [site_node, hkind]
      by_cases hwraps : k ∈ Gauge.wrappers
      · -- Nodes that wrap their content carry no value.
        have hnone : n.kind? ∉ [some .text, some .inlineCode, some .code] := by
          rw [hkind]
          revert hwraps
          cases k <;> decide
        rw [hbelow hnone, ← hcontent]
        exact textGauge.slot_ofKind hwraps
      have hrest : k ∈ [.table, .tableRow, .break, .thematicBreak, .text, .inlineCode, .code] := by
        revert hk hwraps
        cases k <;> decide
      cases k with
      | table =>
          rw [ofKind, map_node_slot, map_map_some, hbelow (by simp [hkind])]
          exact carries_table h hn hkind
      | tableRow =>
          rw [ofKind, map_node_slot, map_map_some, hbelow (by simp [hkind])]
          exact carries_row h hn hkind (by decide) []
      | «break» | thematicBreak =>
          rw [hbelow (by simp [hkind]), hn.leaf (by simp [hkind])]
          rfl
      | text =>
          rw [hleaf (hn.leaf (by simp [hkind]))]
          exact congrArg Except.ok (slot_textGauge _)
      | inlineCode =>
          rw [hleaf (hn.leaf (by simp [hkind]))]
          refine congrArg Except.ok ((textGauge.measure_element "code" (by decide) _ _).trans ?_)
          exact slot_textGauge _
      | code =>
          rw [hleaf (hn.leaf (by simp [hkind]))]
          exact congrArg Except.ok (slot_codeBlock _)
      | _ => exact absurd hrest (by decide)

theorem carries_of_textual (h : ∀ m ∈ n.walk, Textual m) : Carries defs n := by
  refine Mdast.Node.of_forall_mem_walk (fun n hn hbelow => ?_) h n n.mem_walk_self
  have hchildren : ∀ c ∈ n.children, Textual c ∧ Carries defs c :=
    fun c hc => hbelow c (Mdast.Node.mem_walkAll_of_mem hc)
  exact carries_of_children hn (fun c hc => (hchildren c hc).1.not_html)
    fun c hc => (hchildren c hc).2

/-! ## Documents -/

/-- A document of textual nodes is rendered, and but for spaces and line feeds the text of its view
tree is its own text: none is lost, repeated or moved. -/
theorem document_keeps_text {root : Mdast.Node} (h : ∀ n ∈ root.walk, Textual n) :
    ∃ t, document [] root = .ok t ∧ dense t.textContent = dense root.textContent := by
  have hcarries : Carries (definitions root) root := carries_of_textual h
  have hroot := hcarries .own _ trivial .own
  rw [document, slot]
  cases hslot : (part [] (definitions root) root).slot with
  | error e =>
      rw [hslot] at hroot
      cases hroot
  | ok o =>
      rw [hslot] at hroot
      have htext : textGauge.slot o = dense root.textContent := Except.ok.inj hroot
      refine ⟨o.getD (.plain containerTag []), rfl, ?_⟩
      rw [← htext]
      cases o with
      | some n => exact (slot_textGauge n).symm
      | none => rfl

/-- A list with a task in a tight item and a root in place of a paragraph, a table, and a row and a
cell outside of tables. -/
def crowded : Mdast.Node :=
  .ofKind .root
    [.mk "list" { Mdast.Fields.none with ordered := some true, start := some 3 }
        [.mk "listItem" { Mdast.Fields.none with checked := some true, spread := some false }
            [.ofKind .paragraph [.text "a b"], .ofKind .root [.ofKind .paragraph [.text "c\n"]]],
          .ofKind .listItem [.ofKind .heading [.literal .inlineCode " d"], .literal .code "e"]],
      .ofKind .table
        [.ofKind .tableRow [.ofKind .tableCell [.text "f"], .ofKind .tableCell []],
          .ofKind .tableRow [.ofKind .tableCell [.ofKind .strong [.text "g"]]]],
      .ofKind .tableRow [.ofKind .tableCell [.text "h"]],
      .ofKind .link [.ofKind .tableCell [.ofKind .text [], .ofKind .break [], .text "i"]]]

theorem crowded_keeps_text :
    (∀ n ∈ crowded.walk, Textual n) ∧
      ∃ t, document [] crowded = .ok t ∧ dense t.textContent = dense crowded.textContent :=
  ⟨by decide, document_keeps_text (by decide)⟩

/-- The text of the view tree itself. -/
example : (document [] crowded).map Node.textContent =
    .ok "\n a b\nc\n\n\n d\ne\n\n\n\n\n\n\nf\n\n\n\n\n\ng\n\n\n\n\nh\n\ni" := by
  decide +kernel

end Render

end PagePress
