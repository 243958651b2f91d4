import PagePress.Proofs.Markup.RoundTrip
import PagePress.Render.Document

/-!
# Writable rendering — what documents without raw HTML render to

No text of a document takes part in the names of the view tree: every tag and every attribute
name is one of the renderers' own.

* `Clean` describes a rendered node without matchers and without raw HTML below it;
* `ofKind_clean`: every standard renderer turns clean children into writable nodes;
* `document_reads_back`: a document without raw HTML is rendered, and its HTML is read as its
  view tree.
-/

namespace PagePress

namespace Render

open Mdast (Kind Align)
open View (Node isTagName isAttrName isVoid)

/-! ## Writable elements -/

/-- Tags of elements that may have any children. -/
def ContainerTag (t : String) : Prop :=
  isTagName t = true ∧ isVoid t = false ∧ t ∉ Markup.rawTextNames

instance (t : String) : Decidable (ContainerTag t) := inferInstanceAs (Decidable (_ ∧ _))

theorem writable_element {tag : String} {attrs : List (String × String)} {cs : List Node}
    (htag : ContainerTag tag) (hattrs : ∀ e ∈ attrs, isAttrName e.1 = true)
    (hcs : ∀ c ∈ cs, c.Writable) : (element tag attrs cs).Writable :=
  .element htag.1 (fun e he => hattrs e (Dict.mem_ofList he)) htag.2.1 htag.2.2 hcs

theorem writable_plain {tag : String} {cs : List Node} (htag : ContainerTag tag)
    (hcs : ∀ c ∈ cs, c.Writable) : (Node.plain tag cs).Writable :=
  @writable_element tag [] cs htag (by simp) hcs

theorem writable_void {tag : String} {attrs : List (String × String)} (htag : isTagName tag = true)
    (hvoid : isVoid tag = true) (hattrs : ∀ e ∈ attrs, isAttrName e.1 = true) :
    (element tag attrs []).Writable :=
  .void htag (fun e he => hattrs e (Dict.mem_ofList he)) hvoid

theorem writable_plain_void {tag : String} (htag : isTagName tag = true)
    (hvoid : isVoid tag = true) : (Node.plain tag []).Writable :=
  @writable_void tag [] htag hvoid (by simp)

/-- The parts of a writable element with children. -/
theorem writable_element_inv {tag : String} {as : Dict String} {cs : List Node}
    (htag : ContainerTag tag) (h : (Node.element tag as cs).Writable) :
    (∀ e ∈ as.entries, isAttrName e.1 = true) ∧ ∀ c ∈ cs, c.Writable := by
  cases h with
  | void _ _ hvoid =>
      rw [htag.2.1] at hvoid
      cases hvoid
  | raw hraw _ _ => exact absurd hraw htag.2.2
  | element _ has _ _ hcs => exact ⟨has, hcs⟩

/-! ## Lines -/

theorem writable_newline : newline.Writable := .text _

theorem writable_separate {ns : List Node} (h : ∀ n ∈ ns, n.Writable) :
    ∀ n ∈ separate ns, n.Writable := by
  induction ns with
  | nil => simp [separate]
  | cons n ns ih =>
      have hn := h n (List.mem_cons_self ..)
      have hns := ih fun m hm => h m (List.mem_cons_of_mem _ hm)
      cases ns with
      | nil => simpa [separate] using hn
      | cons m ms =>
          rw [separate, List.forall_mem_cons, List.forall_mem_cons]
          exact ⟨hn, writable_newline, hns⟩
          simp

theorem writable_wrapLoose {ns : List Node} (h : ∀ n ∈ ns, n.Writable) :
    ∀ n ∈ wrapLoose ns, n.Writable := by
  cases ns with
  | nil => simpa [wrapLoose] using writable_newline
  | cons n ns =>
      have hsep := writable_separate h
      simp only [wrapLoose, List.cons_append, List.forall_mem_cons, List.forall_mem_append]
      exact ⟨writable_newline, hsep, writable_newline, by simp⟩

/-! ## Attributes -/

theorem isAttrName_titleAttr (title : Option String) :
    ∀ e ∈ titleAttr title, isAttrName e.1 = true := by
  cases title with
  | none => simp [titleAttr]
  | some t =>
      simp only [titleAttr, Option.toList_some, List.map_cons, List.map_nil,
        List.forall_mem_singleton]
      decide

theorem writable_anchor (url title : Option String) {cs : List Node} (h : ∀ c ∈ cs, c.Writable) :
    (anchor url title cs).Writable := by
  refine writable_element (by decide) ?_ h
  rw [List.forall_mem_cons]
  exact ⟨show isAttrName "href" = true by decide, isAttrName_titleAttr title⟩

theorem writable_image (url alt title : Option String) : (image url alt title).Writable := by
  refine writable_void (by decide) (by decide) ?_
  simp only [List.cons_append, List.nil_append, List.forall_mem_cons]
  exact ⟨show isAttrName "src" = true by decide, show isAttrName "alt" = true by decide,
    isAttrName_titleAttr title⟩

/-! ## Blocks -/

theorem containerTag_headingTag (depth : Option UInt8) : ContainerTag (headingTag depth) := by
  unfold headingTag
  -- Any level is brought between one and six.
  have hrange : ∀ n, 1 ≤ n → n ≤ 6 → ContainerTag s!"h{n}" := by decide +kernel
  exact hrange _ (by omega) (by omega)

theorem writable_codeBlock (f : Mdast.Fields) : (codeBlock f).Writable := by
  refine writable_plain (by decide) ?_
  rw [List.forall_mem_singleton]
  refine writable_element (by decide) ?_ (by simpa using .text _)
  intro e he
  split at he
  · cases he
  · rw [List.mem_singleton.1 he]
    exact show isAttrName "class" = true by decide

theorem writable_list (f : Mdast.Fields) {items : List Node} (h : ∀ n ∈ items, n.Writable) :
    (list f items).Writable := by
  have hitems := writable_wrapLoose h
  unfold list
  split
  · split
    · refine writable_element (by decide) ?_ hitems
      intro e he
      split at he
      · cases he
      · rw [List.mem_singleton.1 he]
        exact show isAttrName "start" = true by decide
    · exact writable_plain (by decide) hitems
  · exact writable_plain (by decide) hitems

/-! ## Items -/

theorem writable_checkbox (checked : Bool) : (checkbox checked).Writable := by
  refine writable_void (by decide) (by decide) ?_
  cases checked <;> simp <;> decide

theorem writable_withCheckbox (checked : Bool) {ns : List Node} (h : ∀ n ∈ ns, n.Writable) :
    ∀ n ∈ withCheckbox checked ns, n.Writable := by
  have hbox := writable_checkbox checked
  unfold withCheckbox
  split
  · rename_i as cs rest
    rw [List.forall_mem_cons] at h ⊢
    refine ⟨?_, h.2⟩
    obtain ⟨has, hcs⟩ := writable_element_inv (by decide) h.1
    refine .element (by decide) has (by decide) (by decide) ?_
    cases cs with
    | nil => simpa [checkFront] using hbox
    | cons c cs =>
        simp only [checkFront, List.forall_mem_cons (a := checkbox checked)]
        exact ⟨hbox, List.forall_mem_cons.2 ⟨.text _, hcs⟩⟩
  · rw [List.forall_mem_cons]
    exact ⟨writable_plain (by decide) (by simpa using hbox), h⟩

theorem writable_children_of_isParagraph {n : Node} (h : n.Writable) (hp : isParagraph n = true) :
    ∀ c ∈ n.children, c.Writable := by
  cases n with
  | text s => simp [Node.children]
  | element t as cs =>
      obtain rfl : t = "p" := by simpa [isParagraph, Node.tag?] using hp
      exact (writable_element_inv (by decide) h).2

theorem writable_itemChild (loose opening : Bool) {n : Node} (h : n.Writable) :
    ∀ m ∈ itemChild loose opening n, m.Writable := by
  unfold itemChild
  rw [List.forall_mem_append]
  constructor
  · split
    · simpa using writable_newline
    · simp
  · -- A paragraph of a tight item gives way to its children.
    split
    · rename_i hp
      exact writable_children_of_isParagraph h (by simp at hp; exact hp.1)
    · simpa using h

theorem writable_itemContent (loose : Bool) {ns : List Node} (h : ∀ n ∈ ns, n.Writable) :
    ∀ n ∈ itemContent loose ns, n.Writable := by
  cases ns with
  | nil => simp [itemContent]
  | cons n ns =>
      rw [List.forall_mem_cons] at h
      simp only [itemContent, List.forall_mem_append]
      refine ⟨⟨writable_itemChild _ _ h.1, ?_⟩, ?_⟩
      · intro m hm
        obtain ⟨c, hc, hm⟩ := List.mem_flatMap.1 hm
        exact writable_itemChild _ _ (h.2 c hc) m hm
      · split
        · simpa using writable_newline
        · simp

theorem writable_listItem (n : Mdast.Node) {cs : List Node} (h : ∀ c ∈ cs, c.Writable) :
    (listItem n cs).Writable := by
  unfold listItem
  split
  · exact writable_element (by decide) (by decide)
      (writable_itemContent _ (writable_withCheckbox _ h))
  · exact writable_plain (by decide) (writable_itemContent _ h)

/-! ## Clean parts -/

/-- A computation of nodes that comes to writable ones. -/
def Comes (x : Except Error (List Node)) : Prop := ∃ ns, x = .ok ns ∧ ∀ n ∈ ns, n.Writable

/-- A computation of a node that comes to a writable one. -/
def Makes (x : Except Error Node) : Prop := ∃ n, x = .ok n ∧ n.Writable

/-- A slot that holds nothing or a writable node. -/
def Fills (x : Slot) : Prop := ∃ o, x = .ok o ∧ ∀ n ∈ o, Node.Writable n

/-- Rendered nodes that no matcher selects, without raw HTML below them. -/
inductive Clean : Part → Prop where
  | mk {n : Mdast.Node} {slot : Slot} {content : Except Error (List Node)} {parts : List Part} :
      n.is .html = false → Fills slot → Comes content → (∀ p ∈ parts, Clean p) →
      Clean (.mk n none slot content parts)

namespace Clean

variable {p : Part}

theorem not_html (h : Clean p) : p.node.is .html = false := by
  cases h
  assumption

theorem fills (h : Clean p) : Fills p.slot := by
  cases h
  assumption

theorem comes (h : Clean p) : Comes p.content := by
  cases h
  assumption

theorem parts (h : Clean p) : ∀ q ∈ p.parts, Clean q := by
  cases h
  assumption

theorem slotOr (h : Clean p) (usual : Slot) : p.slotOr usual = usual := by
  cases h
  rfl

end Clean

theorem Comes.map {x : Except Error (List Node)} (h : Comes x) {f : List Node → Node}
    (hf : ∀ ns : List Node, (∀ n ∈ ns, n.Writable) → (f ns).Writable) :
    Fills (x.map fun ns => some (f ns)) := by
  obtain ⟨ns, rfl, hns⟩ := h
  exact ⟨_, rfl, by simpa using hf ns hns⟩

theorem Comes.makes {x : Except Error (List Node)} (h : Comes x) {f : List Node → Node}
    (hf : ∀ ns : List Node, (∀ n ∈ ns, n.Writable) → (f ns).Writable) : Makes (x.map f) := by
  obtain ⟨ns, rfl, hns⟩ := h
  exact ⟨_, rfl, hf ns hns⟩

theorem Makes.fills {x : Except Error Node} (h : Makes x) : Fills (x.map some) := by
  obtain ⟨n, rfl, hn⟩ := h
  exact ⟨_, rfl, by simpa using hn⟩

theorem collect_comes {ss : List Slot} (h : ∀ s ∈ ss, Fills s) : Comes (collect ss) := by
  induction ss with
  | nil => exact ⟨[], rfl, by simp⟩
  | cons s ss ih =>
      rw [List.forall_mem_cons] at h
      obtain ⟨o, rfl, ho⟩ := h.1
      obtain ⟨ns, hns, hall⟩ := ih h.2
      refine ⟨o.toList ++ ns, by rw [collect, hns]; rfl, ?_⟩
      rw [List.forall_mem_append]
      exact ⟨by simpa using ho, hall⟩

/-- Without raw HTML among the children the children are rendered one by one. -/
theorem content_comes (n : Mdast.Node) {ps : List Part} (h : ∀ p ∈ ps, Clean p) :
    Comes (content n ps) := by
  -- Raw HTML would have the children written as text and read again.
  have hany : ps.any (fun p => p.node.is .html) = false := by
    rw [List.any_eq_false]
    exact fun p hp => by simp [(h p hp).not_html]
  rw [content, hany, Bool.and_false, if_neg Bool.false_ne_true]
  refine collect_comes fun s hs => ?_
  obtain ⟨p, hp, rfl⟩ := List.mem_map.1 hs
  exact (h p hp).fills

/-! ## Tables -/

theorem cells_fill {tag : String} (htag : ContainerTag tag) {ps : List Part} :
    ∀ {as : List (Option Align)}, (∀ p ∈ ps, Clean p) → ∀ s ∈ cells tag as ps, Fills s := by
  induction ps with
  | nil =>
      intro as _ s hs
      cases hs
  | cons p ps ih =>
      intro as h s hs
      rw [List.forall_mem_cons] at h
      rcases List.mem_cons.1 hs with rfl | hs
      · -- No matcher selects the cell, so it has the tag of its row.
        rw [h.1.slotOr]
        refine h.1.comes.map fun ns hns => writable_element htag ?_ hns
        intro e he
        obtain ⟨a, -, rfl⟩ := List.mem_map.1 he
        exact show isAttrName "align" = true by decide
      · exact ih h.2 s hs

theorem row_makes {tag : String} (htag : ContainerTag tag) (as : List (Option Align))
    {ps : List Part} (h : ∀ p ∈ ps, Clean p) : Makes (row tag as ps) :=
  (collect_comes (cells_fill htag h)).makes fun _ hns =>
    writable_plain (by decide) (writable_wrapLoose hns)

theorem rowSlot_fills {tag : String} (htag : ContainerTag tag) (as : List (Option Align)) {p : Part}
    (h : Clean p) : Fills (rowSlot tag as p) := by
  rw [rowSlot, h.slotOr]
  exact (row_makes htag as h.parts).fills

theorem writable_tableSections {ns : List Node} (h : ∀ n ∈ ns, n.Writable) :
    ∀ n ∈ tableSections ns, n.Writable := by
  rcases ns with _ | ⟨n, _ | ⟨m, ms⟩⟩
  · simp [tableSections]
  · have hhead := @writable_plain "thead" _ (by decide) (writable_wrapLoose h)
    simpa [tableSections] using hhead
  · rw [List.forall_mem_cons] at h
    have hhead := @writable_plain "thead" _ (by decide)
      (@writable_wrapLoose [n] (by simpa using h.1))
    have hbody := @writable_plain "tbody" _ (by decide) (writable_wrapLoose h.2)
    simpa [tableSections] using ⟨hhead, hbody⟩

theorem table_makes (f : Mdast.Fields) {ps : List Part} (h : ∀ p ∈ ps, Clean p) :
    Makes (table f ps) := by
  have hrows : ∀ s ∈ rowSlots (f.align.getD []) ps, Fills s := by
    cases ps with
    | nil => simp [rowSlots]
    | cons p ps =>
        rw [List.forall_mem_cons] at h
        rw [rowSlots, List.forall_mem_cons]
        refine ⟨rowSlot_fills (by decide) _ h.1, fun s hs => ?_⟩
        obtain ⟨q, hq, rfl⟩ := List.mem_map.1 hs
        exact rowSlot_fills (by decide) _ (h.2 q hq)
  exact (collect_comes hrows).makes fun _ hns =>
    writable_plain (by decide) (writable_wrapLoose (writable_tableSections hns))

/-! ## Standard renderers -/

/-- An output of writable nodes. -/
inductive Output.Writable : Output → Prop where
  | node {n : Node} : n.Writable → Writable (.node n)
  | nodes {ns : List Node} : (∀ n ∈ ns, n.Writable) → Writable (.nodes ns)

theorem Output.Writable.fills {o : Output} (h : o.Writable) : Fills o.slot := by
  cases h with
  | node h => exact ⟨_, rfl, by simpa using h⟩
  | @nodes ns h =>
      refine ⟨_, rfl, ?_⟩
      rcases ns with _ | ⟨n, _ | ⟨m, ms⟩⟩
      · simp [gather]
      · simpa [gather] using h
      · simpa [gather] using @writable_plain containerTag _ (by decide) h

/-- A renderer that comes to an output of writable nodes. -/
def Succeeds (x : Except Error Output) : Prop := ∃ o, x = .ok o ∧ o.Writable

theorem Comes.node {x : Except Error (List Node)} (h : Comes x) {f : List Node → Node}
    (hf : ∀ ns : List Node, (∀ n ∈ ns, n.Writable) → (f ns).Writable) :
    Succeeds (x.map fun ns => .node (f ns)) := by
  obtain ⟨ns, rfl, hns⟩ := h
  exact ⟨_, rfl, .node (hf ns hns)⟩

theorem Comes.plain {x : Except Error (List Node)} (h : Comes x) {tag : String}
    (htag : ContainerTag tag) : Succeeds (x.map fun ns => .node (.plain tag ns)) :=
  h.node fun _ hns => writable_plain htag hns

theorem Makes.succeeds {x : Except Error Node} (h : Makes x) : Succeeds (x.map .node) := by
  obtain ⟨n, rfl, hn⟩ := h
  exact ⟨_, rfl, .node hn⟩

theorem succeeds_node {n : Node} (h : n.Writable) : Succeeds (.ok (.node n)) := ⟨_, rfl, .node h⟩

theorem linkReference_makes {s : Site} (h : Comes s.content) : Makes (linkReference s) := by
  unfold linkReference
  split
  · exact h.makes fun _ hns => writable_anchor _ _ hns
  · exact ⟨_, rfl, .text _⟩

theorem writable_imageReference (s : Site) : (imageReference s).Writable := by
  unfold imageReference
  dsimp only
  split
  · exact writable_image _ _ _
  · exact .text _

theorem writable_footnoteDefinition (f : Mdast.Fields) {cs : List Node}
    (h : ∀ c ∈ cs, c.Writable) : (footnoteDefinition f cs).Writable := by
  refine writable_element (by decide) ?_ (writable_wrapLoose h)
  simp only [List.forall_mem_cons]
  exact ⟨show isAttrName "class" = true by decide, show isAttrName "id" = true by decide, by simp⟩

theorem writable_footnoteReference (f : Mdast.Fields) : (footnoteReference f).Writable := by
  refine writable_element (by decide) ?_ ?_
  · rw [List.forall_mem_singleton]
    exact show isAttrName "id" = true by decide
  · rw [List.forall_mem_singleton]
    refine writable_element (by decide) ?_ (by simpa using .text _)
    rw [List.forall_mem_singleton]
    exact show isAttrName "href" = true by decide

/-- Every standard renderer but the one of raw HTML turns clean children into writable nodes. -/
theorem ofKind_succeeds {s : Site} {k : Kind} (hk : k ≠ .html) (hc : Comes s.content)
    (hp : ∀ p ∈ s.parts, Clean p) : Succeeds (ofKind s k) := by
  -- Most kinds put their content into one element; a table looks at the parts themselves.
  cases k with
  | html => exact absurd rfl hk
  | root =>
      obtain ⟨ns, hns, hall⟩ := hc
      exact ⟨_, by rw [ofKind, hns]; rfl, .nodes (writable_separate hall)⟩
  | paragraph => exact hc.plain (by decide)
  | text => exact succeeds_node (.text _)
  | heading => exact hc.plain (containerTag_headingTag _)
  | thematicBreak => exact succeeds_node (writable_plain_void (by decide) (by decide))
  | blockquote =>
      exact hc.node fun _ hns => writable_plain (by decide) (writable_wrapLoose hns)
  | list => exact hc.node fun _ hns => writable_list _ hns
  | listItem => exact hc.node fun _ hns => writable_listItem _ hns
  | table => exact (table_makes _ hp).succeeds
  | tableRow => exact (row_makes (by decide) _ hp).succeeds
  | tableCell => exact hc.plain (by decide)
  | code => exact succeeds_node (writable_codeBlock _)
  | yaml => exact ⟨_, rfl, .nodes (by simp)⟩
  | definition => exact ⟨_, rfl, .nodes (by simp)⟩
  | footnoteDefinition => exact hc.node fun _ hns => writable_footnoteDefinition _ hns
  | emphasis => exact hc.plain (by decide)
  | strong => exact hc.plain (by decide)
  | delete => exact hc.plain (by decide)
  | inlineCode => exact succeeds_node (writable_plain (by decide) (by simpa using .text _))
  | «break» => exact succeeds_node (writable_plain_void (by decide) (by decide))
  | link => exact hc.node fun _ hns => writable_anchor _ _ hns
  | image => exact succeeds_node (writable_image _ _ _)
  | linkReference => exact (linkReference_makes hc).succeeds
  | imageReference => exact succeeds_node (writable_imageReference s)
  | footnote => exact hc.node fun _ hns => writable_element (by decide) (by decide) hns
  | footnoteReference => exact succeeds_node (writable_footnoteReference _)

/-! ## Whole documents -/

/-- A node of a standard kind that is no raw HTML. -/
def IsPlain (n : Mdast.Node) : Prop := ∃ k, n.kind? = some k ∧ k ≠ .html

theorem IsPlain.not_html {n : Mdast.Node} (h : IsPlain n) : n.is .html = false := by
  obtain ⟨k, hkind, hne⟩ := h
  rw [← Bool.not_eq_true]
  intro hhtml
  have htype : n.type = Kind.html.name := by simpa [Mdast.Node.is] using hhtml
  rw [Mdast.Node.kind?, htype, Kind.ofName?_name] at hkind
  cases hkind
  exact hne rfl

theorem assemble_clean (defs : List (String × Mdast.Node)) {n : Mdast.Node} (hn : IsPlain n)
    {ps : List Part} (hps : ∀ p ∈ ps, Clean p) : Clean (assemble [] defs n ps) := by
  have hcontent := content_comes n hps
  -- Without matchers nothing is chosen, and the slot is the standard one.
  refine .mk hn.not_html ?_ hcontent hps
  obtain ⟨k, hkind, hne⟩ := hn
  obtain ⟨o, ho, hout⟩ := ofKind_succeeds (s := ⟨n, content n ps, ps, lookup defs⟩) hne hcontent hps
  have hstandard : standard ⟨n, content n ps, ps, lookup defs⟩ = .ok o := by
    rw [standard]
    simp only [hkind, ho]
  exact hstandard ▸ hout.fills

mutual

/-- A node without raw HTML in it is rendered cleanly. -/
theorem part_clean (defs : List (String × Mdast.Node)) :
    ∀ n : Mdast.Node, (∀ m ∈ n.walk, IsPlain m) → Clean (part [] defs n)
  | .mk t f cs, h => by
    rw [Mdast.Node.walk, List.forall_mem_cons] at h
    exact assemble_clean defs h.1 (parts_clean defs cs h.2)

theorem parts_clean (defs : List (String × Mdast.Node)) :
    ∀ ns : List Mdast.Node, (∀ m ∈ Mdast.Node.walkAll ns, IsPlain m) →
      ∀ p ∈ parts [] defs ns, Clean p
  | [], _, p, hp => nomatch hp
  | n :: ns, h, p, hp => by
    rw [Mdast.Node.walkAll, List.forall_mem_append] at h
    rcases List.mem_cons.1 hp with rfl | hp
    · exact part_clean defs n h.1
    · exact parts_clean defs ns h.2 p hp

end

/-- A document without raw HTML is rendered to a writable node. -/
theorem document_writable {root : Mdast.Node} (h : ∀ n ∈ root.walk, IsPlain n) :
    Makes (document [] root) := by
  obtain ⟨o, hslot, ho⟩ := (part_clean (definitions root) root h).fills
  refine ⟨o.getD (.plain containerTag []), by rw [document, slot, hslot]; rfl, ?_⟩
  cases o with
  | none => exact writable_plain (by decide) (by simp)
  | some n => exact ho n rfl

/-- A document without raw HTML is rendered, and the HTML of the element it is rendered to is
read as this element alone, tidied: no text of the document adds, closes or alters markup. -/
theorem document_reads_back {root : Mdast.Node} (h : ∀ n ∈ root.walk, IsPlain n) :
    ∃ t, document [] root = .ok t ∧
      (t.isElement = true → Markup.parse? t.outerHtml = some [t.tidy]) := by
  obtain ⟨t, ht, hw⟩ := document_writable h
  refine ⟨t, ht, fun helement => ?_⟩
  cases t with
  | text s => cases helement
  | element tag as cs =>
      have hhtml : (Node.element tag as cs).outerHtml.toList =
          Node.htmlAll [.element tag as cs] := by
        simp [Node.outerHtml, Node.htmlAll]
      -- The HTML of an element starts with `<`, and so with no byte order mark.
      have hmark : (Node.htmlAll [.element tag as cs]).head? ≠ some Markup.byteOrderMark := by
        have hhead : (Node.htmlAll [.element tag as cs]).head? = some '<' := by
          simp only [Node.htmlAll, Node.html, View.startTagHtml]
          split
          · rfl
          · split <;> rfl
        rw [hhead]
        decide
      rw [Markup.parse?, hhtml, Markup.parseChars?_htmlAll (by simpa using hw) hmark]
      rfl

/-- A document whose every text tries to leave its place. -/
def hostileDocument : Mdast.Node :=
  .ofKind .root
    [.mk "heading" { Mdast.Fields.none with depth := some 200 } [.text "</h6><script>&lt;"],
      .ofKind .paragraph
        [.mk "link" { Mdast.Fields.none with url := some "x\" onload=\"", title := some "'>" }
            [.text "", .text "a", .text "b"],
          .mk "imageReference" { Mdast.Fields.none with alt := some "<!--" } []],
      .mk "code" { Mdast.Fields.none with lang := some "\"><b>", value := some "</code>" } []]

theorem hostileDocument_plain : ∀ n ∈ hostileDocument.walk, IsPlain n := by
  simp only [hostileDocument, Mdast.Node.ofKind, Mdast.Node.text, Mdast.Node.literal,
    Mdast.Node.walk, Mdast.Node.walkAll, List.append_nil, List.cons_append, List.nil_append,
    List.forall_mem_cons]
  exact ⟨⟨.root, by decide, by decide⟩, ⟨.heading, by decide, by decide⟩,
    ⟨.text, by decide, by decide⟩, ⟨.paragraph, by decide, by decide⟩,
    ⟨.link, by decide, by decide⟩, ⟨.text, by decide, by decide⟩,
    ⟨.text, by decide, by decide⟩, ⟨.text, by decide, by decide⟩,
    ⟨.imageReference, by decide, by decide⟩, ⟨.code, by decide, by decide⟩, by simp⟩

theorem hostileDocument_reads_back :
    (∀ n ∈ hostileDocument.walk, IsPlain n) ∧
      ∃ t, document [] hostileDocument = .ok t ∧ t.isElement = true ∧
        Markup.parse? t.outerHtml = some [t.tidy] := by
  obtain ⟨t, ht, hreads⟩ := document_reads_back hostileDocument_plain
  have helement : (document [] hostileDocument).map Node.isElement = .ok true := by
    decide +kernel
  rw [ht] at helement
  have h : t.isElement = true := Except.ok.inj helement
  exact ⟨hostileDocument_plain, t, ht, h, hreads h⟩

end Render

end PagePress
