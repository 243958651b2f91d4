import PagePress.Proofs.Mdast.Node
import PagePress.Proofs.Render.Writable

/-!
# Inline markup — raw HTML around rendered siblings

Raw HTML in a line may open an element in one child of a paragraph and close it in another.  The
children are then written one after another and read again as a whole.

* `fragment_clean`: children without raw HTML in them are written as they are rendered;
* `content_wrapped`: between a start tag and its end tag they are read as one element;
* `paragraph_wraps`: nothing else changes in the HTML of the paragraph.
-/

namespace PagePress

namespace Render

open View (Node isTagName isVoid)

/-! ## Fragments -/

theorem fragment_cons {p : Part} {ps : List Part} {h hs : List Char} (hp : p.fragment = .ok h)
    (hps : fragment ps = .ok hs) : fragment (p :: ps) = .ok (h ++ hs) := by
  rw [fragment, hp, hps]
  rfl

theorem fragment_append {ps qs : List Part} {hs' : List Char} (hqs : fragment qs = .ok hs') :
    ∀ {hs : List Char}, fragment ps = .ok hs → fragment (ps ++ qs) = .ok (hs ++ hs') := by
  induction ps with
  | nil =>
      intro hs hps
      obtain rfl : [] = hs := Except.ok.inj hps
      exact hqs
  | cons p ps ih =>
      intro hs hps
      cases hp : p.fragment with
      | error e =>
          rw [fragment, hp] at hps
          cases hps
      | ok h =>
          cases htail : fragment ps with
          | error e =>
              rw [fragment, hp, htail] at hps
              cases hps
          | ok hs₁ =>
              rw [fragment_cons hp htail] at hps
              obtain rfl : h ++ hs₁ = hs := Except.ok.inj hps
              rw [List.append_assoc]
              exact fragment_cons hp (ih htail)

theorem Clean.fragment_eq {p : Part} (h : Clean p) {o : Option Node} (hslot : p.slot = .ok o) :
    p.fragment = .ok (Node.htmlAll o.toList) := by
  rw [Part.fragment, h.not_html, Bool.false_and, if_neg Bool.false_ne_true, hslot]
  cases o with
  | none => rfl
  | some n => simp [Except.map, Node.htmlAll]

theorem fragment_clean {ps : List Part} (h : ∀ p ∈ ps, Clean p) :
    ∃ ns, collect (ps.map Part.slot) = .ok ns ∧ fragment ps = .ok (Node.htmlAll ns) ∧
      ∀ n ∈ ns, n.Writable := by
  induction ps with
  | nil => exact ⟨[], rfl, rfl, by simp⟩
  | cons p ps ih =>
      have hp : Clean p := h p (List.mem_cons_self ..)
      obtain ⟨o, hslot, ho⟩ := hp.fills
      obtain ⟨ns, hns, hfragment, hw⟩ := ih fun q hq => h q (List.mem_cons_of_mem _ hq)
      have hpart : p.fragment = .ok (Node.htmlAll o.toList) := hp.fragment_eq hslot
      refine ⟨o.toList ++ ns, ?_, ?_, ?_⟩
      · rw [List.map_cons, collect, hslot, hns]
        rfl
      · rw [Node.htmlAll_append]
        exact fragment_cons hpart hfragment
      · rw [List.forall_mem_append]
        exact ⟨by simpa using ho, hw⟩

/-! ## Wrapping -/

/-- The HTML of an element without attributes. -/
theorem html_plain {t : String} (htag : ContainerTag t) (ns : List Node) :
    (Node.plain t ns).html =
      ("<" ++ t ++ ">").toList ++ (Node.htmlAll ns ++ ("</" ++ t ++ ">").toList) := by
  have hraw := Markup.contains_rawTextTags_eq_false htag.2.2
  simp only [Node.plain, Node.html, htag.2.1, hraw, Bool.false_eq_true, if_false]
  simp [View.startTagHtml, View.endTagHtml, View.attrsHtml, Dict.empty]

theorem read_htmlAll {ns : List Node} (hw : ∀ n ∈ ns, n.Writable)
    (hmark : (Node.htmlAll ns).head? ≠ some Markup.byteOrderMark) :
    read (Node.htmlAll ns) = .ok (Node.tidyAll ns) := by
  rw [read, Markup.parseChars?_htmlAll hw hmark]

/-- Children that a start tag and an end tag stand between are read as an element among what
stands around them. -/
theorem content_wrapped {n : Mdast.Node} {t : String} {ps qs rs : List Part} {o c : Part}
    (hparent : isPhrasingParent n = true) (htag : ContainerTag t)
    (hps : ∀ p ∈ ps, Clean p) (hqs : ∀ p ∈ qs, Clean p) (hrs : ∀ p ∈ rs, Clean p)
    (ho : o.node.is .html = true) (hopen : o.fragment = .ok ("<" ++ t ++ ">").toList)
    (hclose : c.fragment = .ok ("</" ++ t ++ ">").toList) :
    ∃ as bs cs,
      collect (ps.map Part.slot) = .ok as ∧ collect (qs.map Part.slot) = .ok bs ∧
      collect (rs.map Part.slot) = .ok cs ∧
      ((Node.htmlAll as).head? ≠ some Markup.byteOrderMark →
        content n (ps ++ o :: (qs ++ c :: rs)) =
          .ok (Node.tidyAll (as ++ .plain t bs :: cs))) := by
  obtain ⟨as, has, hfas, hwas⟩ := fragment_clean hps
  obtain ⟨bs, hbs, hfbs, hwbs⟩ := fragment_clean hqs
  obtain ⟨cs, hcs, hfcs, hwcs⟩ := fragment_clean hrs
  refine ⟨as, bs, cs, has, hbs, hcs, fun hmark => ?_⟩
  -- What is written is the HTML of the element between its siblings.
  have hwritten : fragment (ps ++ o :: (qs ++ c :: rs)) =
      .ok (Node.htmlAll (as ++ .plain t bs :: cs)) := by
    have h := fragment_append
      (fragment_cons hopen (fragment_append (fragment_cons hclose hfcs) hfbs)) hfas
    rw [h, Node.htmlAll_append, Node.htmlAll, html_plain htag]
    simp only [List.append_assoc]
  have hw : ∀ m ∈ as ++ .plain t bs :: cs, m.Writable := by
    rw [List.forall_mem_append, List.forall_mem_cons]
    exact ⟨hwas, writable_plain htag hwbs, hwcs⟩
  -- Without siblings in front the text starts with the tag, which is no mark either.
  have hstart : (Node.htmlAll (as ++ .plain t bs :: cs)).head? ≠ some Markup.byteOrderMark := by
    rw [Node.htmlAll_append, Node.htmlAll, html_plain htag]
    cases h : Node.htmlAll as with
    | nil => simp; decide
    | cons d ds => simpa [h] using hmark
  have hany : (ps ++ o :: (qs ++ c :: rs)).any (fun p => p.node.is .html) = true := by
    simp [ho]
  rw [content, hparent, hany, Bool.true_and, if_pos rfl, hwritten]
  exact read_htmlAll hw hstart

/-! ## Paragraphs -/

theorem parts_eq_map (r : Registry) (defs : List (String × Mdast.Node)) (ns : List Mdast.Node) :
    parts r defs ns = ns.map (part r defs) := by
  induction ns with
  | nil => rfl
  | cons n ns ih => rw [parts, ih, List.map_cons]

theorem part_eq (r : Registry) (defs : List (String × Mdast.Node)) (n : Mdast.Node) :
    part r defs n = assemble r defs n (n.children.map (part r defs)) := by
  cases n with
  | mk t f cs => rw [part, parts_eq_map, Mdast.Node.children]

@[simp]
theorem part_node (r : Registry) (defs : List (String × Mdast.Node)) (n : Mdast.Node) :
    (part r defs n).node = n := by
  rw [part_eq]
  rfl

@[simp]
theorem part_chosen (defs : List (String × Mdast.Node)) (n : Mdast.Node) :
    (part [] defs n).chosen = none := by
  rw [part_eq]
  rfl

@[simp]
theorem part_content (r : Registry) (defs : List (String × Mdast.Node)) (n : Mdast.Node) :
    (part r defs n).content = content n (n.children.map (part r defs)) := by
  rw [part_eq]
  rfl

@[simp]
theorem part_parts (r : Registry) (defs : List (String × Mdast.Node)) (n : Mdast.Node) :
    (part r defs n).parts = n.children.map (part r defs) := by
  rw [part_eq]
  rfl

/-- The slot of a node that no matcher selects is the standard one. -/
theorem slot_standard (defs : List (String × Mdast.Node)) (n : Mdast.Node) :
    slot [] defs n =
      standard ⟨n, content n (n.children.map (part [] defs)), n.children.map (part [] defs),
        lookup defs⟩ >>= Output.slot := by
  rw [slot, part_eq]
  rfl

theorem paragraph_slot (defs : List (String × Mdast.Node)) {n : Mdast.Node}
    (hkind : n.kind? = some .paragraph) {ns : List Node}
    (h : content n (n.children.map (part [] defs)) = .ok ns) :
    slot [] defs n = .ok (some (.plain "p" ns)) := by
  rw [slot_standard, standard]
  simp only [hkind, ofKind, h]
  rfl

theorem part_fragment_of_html (defs : List (String × Mdast.Node)) {n : Mdast.Node} {s : String}
    (hkind : n.kind? = some .html) (hvalue : n.value = some s) :
    (part [] defs n).fragment = .ok s.toList := by
  have hhtml : n.is .html = true := Mdast.Node.is_iff.2 hkind
  simp [Part.fragment, hhtml, hvalue]

/-- Nodes of standard types without raw HTML in them are rendered cleanly. -/
theorem map_part_clean (defs : List (String × Mdast.Node)) {ns : List Mdast.Node}
    (hstandard : ∀ n ∈ Mdast.Node.walkAll ns, n.kind?.isSome = true)
    (hplain : ∀ n ∈ Mdast.Node.walkAll ns, n.kind? ≠ some .html) :
    ∀ p ∈ ns.map (part [] defs), Clean p := by
  rw [← parts_eq_map]
  refine parts_clean defs ns fun n hn => ?_
  obtain ⟨k, hkind⟩ := Option.isSome_iff_exists.1 (hstandard n hn)
  refine ⟨k, hkind, ?_⟩
  rintro rfl
  exact hplain n hn hkind

/-- The HTML of nodes one after another. -/
def outerHtmls (ns : List Node) : String := String.join (ns.map Node.outerHtml)

theorem toList_outerHtmls (ns : List Node) : (outerHtmls ns).toList = Node.htmlAll ns :=
  Markup.toList_join_outerHtml ns

theorem outerHtml_paragraph (as bs cs : List Node) {t : String} (htag : ContainerTag t) :
    (Node.plain "p" (Node.tidyAll (as ++ .plain t bs :: cs))).outerHtml =
      "<p>" ++ outerHtmls as ++ "<" ++ t ++ ">" ++ outerHtmls bs ++ "</" ++ t ++ ">"
        ++ outerHtmls cs ++ "</p>" := by
  rw [← String.toList_inj, Node.outerHtml, String.toList_ofList, html_plain (by decide),
    Node.htmlAll_tidyAll, Node.htmlAll_append, Node.htmlAll, html_plain htag]
  simp [toList_outerHtmls]

/-- In the HTML of a paragraph, the children between a start tag and its end tag stand between
the tags as each of them is rendered alone, and so do the children before and behind them. -/
theorem paragraph_wraps {root p o c : Mdast.Node} {A B C : List Mdast.Node} {t : String}
    (hstandard : ∀ n ∈ root.walk, n.kind?.isSome = true) (hp : p ∈ root.walk)
    (hkind : p.kind? = some .paragraph) (hchildren : p.children = A ++ o :: (B ++ c :: C))
    (ho : o.kind? = some .html) (hopen : o.value = some ("<" ++ t ++ ">"))
    (hc : c.kind? = some .html) (hclose : c.value = some ("</" ++ t ++ ">"))
    (hplain : ∀ n ∈ Mdast.Node.walkAll (A ++ B ++ C), n.kind? ≠ some .html)
    (htag : isTagName t = true) (hvoid : isVoid t = false) (hraw : t ∉ Markup.rawTextNames) :
    let alone (ns : List Mdast.Node) := collect (ns.map (slot [] (definitions root)))
    ∃ as bs cs,
      alone A = .ok as ∧ alone B = .ok bs ∧ alone C = .ok cs ∧
      ((outerHtmls as).toList.head? ≠ some Markup.byteOrderMark →
        ∃ e, slot [] (definitions root) p = .ok (some e) ∧
          e.outerHtml = "<p>" ++ outerHtmls as ++ "<" ++ t ++ ">" ++ outerHtmls bs
            ++ "</" ++ t ++ ">" ++ outerHtmls cs ++ "</p>") := by
  intro alone
  -- What is below the paragraph is of standard types, and raw HTML stands only in the two tags.
  have hbelow : ∀ n ∈ Mdast.Node.walkAll p.children, n.kind?.isSome = true :=
    fun n hn => hstandard n (Mdast.Node.walkAll_children_subset hp n hn)
  simp only [hchildren, Mdast.Node.walkAll_append, Mdast.Node.walkAll, List.forall_mem_append]
    at hbelow hplain
  rcases hbelow with ⟨hA, -, hB, -, hC⟩
  rcases hplain with ⟨⟨hA', hB'⟩, hC'⟩
  have hcontainer : ContainerTag t := ⟨htag, hvoid, hraw⟩
  have hparent : isPhrasingParent p = true := by simp [isPhrasingParent, hkind]
  have hnode : (part [] (definitions root) o).node.is .html = true := by
    rw [part_node]
    exact Mdast.Node.is_iff.2 ho
  obtain ⟨as, bs, cs, has, hbs, hcs, hcontent⟩ :=
    content_wrapped hparent hcontainer (map_part_clean (definitions root) hA hA')
      (map_part_clean (definitions root) hB hB') (map_part_clean (definitions root) hC hC') hnode
      (part_fragment_of_html _ ho hopen) (part_fragment_of_html _ hc hclose)
  rw [List.map_map] at has hbs hcs
  refine ⟨as, bs, cs, has, hbs, hcs, fun hmark => ?_⟩
  rw [toList_outerHtmls] at hmark
  refine ⟨_, paragraph_slot _ hkind ?_, outerHtml_paragraph as bs cs hcontainer⟩
  rw [hchildren]
  simpa using hcontent hmark

/-- Emphasis on the end tag of an element that is open around it. -/
def underlined : Mdast.Node :=
  .ofKind .paragraph ([.text "1 < 2 "] ++ .literal .html "<u>" ::
    ([.ofKind .emphasis [.text "</u>"]] ++ .literal .html "</u>" :: [.text "!", .text ""]))

theorem underlined_wraps :
    (∀ n ∈ (Mdast.Node.ofKind .root [underlined]).walk, n.kind?.isSome = true) ∧
      ∃ e, slot [] (definitions (.ofKind .root [underlined])) underlined = .ok (some e) ∧
        e.outerHtml = "<p>1 &lt; 2 <u><em>&lt;/u&gt;</em></u>!</p>" := by
  have hstandard : ∀ n ∈ (Mdast.Node.ofKind .root [underlined]).walk, n.kind?.isSome = true := by
    decide +kernel
  have hmem : underlined ∈ (Mdast.Node.ofKind .root [underlined]).walk := by
    rw [Mdast.Node.ofKind, Mdast.Node.walk, Mdast.Node.walkAll]
    exact List.mem_cons_of_mem _ (List.mem_append_left _ (Mdast.Node.mem_walk_self _))
  obtain ⟨as, bs, cs, has, hbs, hcs, hwraps⟩ :=
    paragraph_wraps (A := [.text "1 < 2 "]) (B := [.ofKind .emphasis [.text "</u>"]])
      (C := [.text "!", .text ""]) (t := "u") (p := underlined) hstandard hmem
      (by decide) rfl (by decide) rfl (by decide) rfl (by decide +kernel) (by decide) (by decide)
      (by decide)
  obtain rfl : [.text "1 < 2 "] = as := Except.ok.inj has
  obtain rfl : [.plain "em" [.text "</u>"]] = bs := Except.ok.inj hbs
  obtain rfl : [.text "!", .text ""] = cs := Except.ok.inj hcs
  obtain ⟨e, hslot, hhtml⟩ := hwraps (by decide +kernel)
  exact ⟨hstandard, e, hslot, hhtml.trans (by decide +kernel)⟩

end Render

end PagePress
