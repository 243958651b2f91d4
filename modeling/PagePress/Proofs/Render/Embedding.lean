import PagePress.Proofs.Fallible
import PagePress.Proofs.Markup.Complete
import PagePress.Proofs.Render.Trace

/-!
# Embedding — the elements of matchers among their siblings

An element that a matcher puts in place of a child stands in its parent as it is, as long as the
children are rendered one by one.  Raw HTML among them makes the parent write all of them out and
read them together, and the element comes back as far as HTML can tell it.

* `Readable` are the elements that HTML can tell;
* `content_shows`: the content of a node shows what a matcher puts there;
* `embeds_element`: so does the node itself, in whatever role it is rendered;
* `not_embedded`: names that HTML does not tell, siblings in front that swallow what follows, and
  references without a definition are where it does not.
-/

namespace PagePress

namespace Render

open Mdast (Align)
open View (Node)
open Markup (Complete)

/-! ## Showing an element -/

/-- Some legible node is written in the same way. -/
def Readable (e : Node) : Prop := ∃ w : Node, w.Legible ∧ w.html = e.html

/-- Somewhere in a list of nodes stands an element that is written in the same way. -/
def Shows (ns : List Node) (e : Node) : Prop :=
  ∃ y ∈ Node.elementsAll ns, y.outerHtml = e.outerHtml

section

variable {e : Node}

theorem shows_of_mem {ns : List Node} (he : e.isElement = true) (h : e ∈ ns) : Shows ns e :=
  ⟨e, Node.mem_elementsAll.2 ⟨e, h, Node.mem_elements_self he⟩, rfl⟩

/-- An element shows what its children show. -/
theorem Shows.element {cs : List Node} (h : Shows cs e) (t : String) (as : Dict String) :
    ∃ y ∈ (Node.element t as cs).elements, y.outerHtml = e.outerHtml :=
  h.imp fun _ hy => ⟨List.mem_cons_of_mem _ hy.1, hy.2⟩

theorem mem_separate {n : Node} : ∀ {ns : List Node}, n ∈ ns → n ∈ separate ns
  | [], h => h
  | [_], h => h
  | m :: k :: ns, h => by
    rw [separate]
    · rcases List.mem_cons.1 h with rfl | h
      · exact List.mem_cons_self ..
      · exact List.mem_cons_of_mem _ (List.mem_cons_of_mem _ (mem_separate h))
    · exact List.cons_ne_nil _ _

theorem mem_wrapLoose {n : Node} {ns : List Node} (h : n ∈ ns) : n ∈ wrapLoose ns := by
  cases ns with
  | nil => cases h
  | cons m ns =>
      rw [wrapLoose]
      · exact List.mem_append_left _ (List.mem_cons_of_mem _ (mem_separate h))
      · exact List.cons_ne_nil _ _

/-- A node in one of the slots is among the nodes in all of them. -/
theorem mem_of_collect {n : Node} {xs : List Slot} (hx : .ok (some n) ∈ xs) {ns : List Node}
    (h : collect xs = .ok ns) : n ∈ ns := by
  rw [(collect_eq_ok.1 h).2, List.mem_filterMap]
  exact ⟨_, hx, rfl⟩

end

/-! ## Fragments -/

theorem fragment_cons_inv {p : Part} {ps : List Part} {h : List Char}
    (hfragment : fragment (p :: ps) = .ok h) :
    ∃ h₁ h₂, p.fragment = .ok h₁ ∧ fragment ps = .ok h₂ ∧ h = h₁ ++ h₂ := by
  obtain ⟨h₁, h1, hfragment⟩ := Fallible.bind_eq_ok.1 hfragment
  obtain ⟨h₂, h2, hfragment⟩ := Fallible.bind_eq_ok.1 hfragment
  exact ⟨h₁, h₂, h1, h2, (Except.ok.inj hfragment).symm⟩

/-- The HTML of children is that of the first ones, and behind it that of the others. -/
theorem fragment_append_inv {ps qs : List Part} :
    ∀ {h : List Char}, fragment (ps ++ qs) = .ok h →
      ∃ h₁ h₂, fragment ps = .ok h₁ ∧ fragment qs = .ok h₂ ∧ h = h₁ ++ h₂ := by
  induction ps with
  | nil => exact fun h => ⟨[], _, rfl, h, rfl⟩
  | cons p ps ih =>
      intro h hfragment
      obtain ⟨h₀, h', hp, hrest, rfl⟩ := fragment_cons_inv hfragment
      obtain ⟨h₁, h₂, h1, h2, rfl⟩ := ih hrest
      exact ⟨h₀ ++ h₁, h₂, fragment_cons hp h1, h2, (List.append_assoc ..).symm⟩

/-- Children that are written completely are so together. -/
theorem fragment_complete {ps : List Part}
    (hps : ∀ p ∈ ps, ∀ h, p.fragment = .ok h → Complete h) :
    ∀ {h : List Char}, fragment ps = .ok h → Complete h := by
  induction ps with
  | nil =>
      intro h hfragment
      obtain rfl : [] = h := Except.ok.inj hfragment
      exact Complete.nil
  | cons p ps ih =>
      intro h hfragment
      rw [List.forall_mem_cons] at hps
      obtain ⟨h₁, h₂, h1, h2, rfl⟩ := fragment_cons_inv hfragment
      exact (hps.1 _ h1).append (ih hps.2 h2)

theorem fragment_succeeds {ps : List Part} (hps : ∀ p ∈ ps, ∃ h, p.fragment = .ok h) :
    ∃ h, fragment ps = .ok h := by
  induction ps with
  | nil => exact ⟨[], rfl⟩
  | cons p ps ih =>
      rw [List.forall_mem_cons] at hps
      obtain ⟨h₁, h1⟩ := hps.1
      obtain ⟨h₂, h2⟩ := ih hps.2
      exact ⟨h₁ ++ h₂, fragment_cons h1 h2⟩

/-! ## Content -/

section

variable {r : Registry} {defs : List (String × Mdast.Node)} {p c : Mdast.Node} {e : Node}

/-- Children with raw HTML among them are written out. -/
def Mixed (p : Mdast.Node) : Prop := ∃ k ∈ p.children, k.kind? = some .html

/-- What is written for a node is complete. -/
def WritesComplete (r : Registry) (defs : List (String × Mdast.Node)) (n : Mdast.Node) : Prop :=
  ∀ h, (part r defs n).fragment = .ok h → Complete h

theorem content_of_mixed (hparent : isPhrasingParent p = true) (hmixed : Mixed p) :
    content p (p.children.map (part r defs)) =
      fragment (p.children.map (part r defs)) >>= read := by
  have hany : (p.children.map (part r defs)).any (fun q => q.node.is .html) = true := by
    obtain ⟨k, hk, hkind⟩ := hmixed
    rw [List.any_map, List.any_eq_true]
    exact ⟨k, hk, by rw [Function.comp_apply, part_node, Mdast.Node.is_iff, hkind]⟩
  rw [content, hparent, hany, Bool.and_self, if_pos rfl]

theorem content_of_not_mixed (hmixed : ¬ Mixed p) :
    content p (p.children.map (part r defs)) =
      collect ((p.children.map (part r defs)).map Part.slot) :=
  content_of_no_html fun c hc hkind => hmixed ⟨c, hc, hkind⟩

/-- An element that a matcher puts in place of a child is written as it is. -/
theorem fragment_of_chosen (hchosen : (part r defs c).chosen = some (.ok (some e))) :
    (part r defs c).fragment = .ok e.html := by
  have hslot : (part r defs c).slot = .ok (some e) := StandsAs.own.eq_of_chosen hchosen
  rw [Part.fragment, hchosen, Option.isNone_some, Bool.and_false, if_neg Bool.false_ne_true, hslot]
  rfl

/-- The content of a node shows an element that a matcher puts in place of a child. -/
theorem content_shows {A B : List Mdast.Node} (hparent : isPhrasingParent p = true)
    (hchildren : p.children = A ++ c :: B) (helement : e.isElement = true)
    (hchosen : (part r defs c).chosen = some (.ok (some e)))
    (hmixed : Mixed p → Readable e ∧ ∀ a ∈ A, WritesComplete r defs a) {ns : List Node}
    (h : content p (p.children.map (part r defs)) = .ok ns) : Shows ns e := by
  by_cases hp : Mixed p
  · obtain ⟨⟨w, hw, hhtml⟩, hcomplete⟩ := hmixed hp
    rw [content_of_mixed hparent hp, hchildren, List.map_append, List.map_cons] at h
    obtain ⟨text, htext, hread⟩ := Fallible.bind_eq_ok.1 h
    -- The element is written behind what stands before it, which is complete.
    obtain ⟨front, _, hfront, hrest, rfl⟩ := fragment_append_inv htext
    obtain ⟨own, back, hown, hback, rfl⟩ := fragment_cons_inv hrest
    obtain rfl : e.html = own := Except.ok.inj ((fragment_of_chosen hchosen).symm.trans hown)
    have hfront' : Complete front := by
      refine fragment_complete (fun q hq => ?_) hfront
      obtain ⟨a, ha, rfl⟩ := List.mem_map.1 hq
      exact hcomplete a ha
    have hw' : w.isElement = true := by
      cases w with
      | element t as cs => rfl
      | text s =>
          have hhead : (Node.text s).html.head? = some '<' := by
            rw [hhtml]
            exact Markup.head?_html helement
          exact absurd (List.mem_of_head? hhead) (Markup.lt_not_mem_escapeText s)
    have hparse : Markup.parseChars? (front ++ (w.html ++ back)) = some ns := by
      rw [hhtml]
      rw [read] at hread
      cases hparse : Markup.parseChars? (front ++ (e.html ++ back)) with
      | none =>
          rw [hparse] at hread
          cases hread
      | some ms =>
          rw [hparse] at hread
          rw [Except.ok.inj hread]
    obtain ⟨y, hy, hsame⟩ := Markup.exists_element_of_parseChars? hfront' hw hw' hparse
    exact ⟨y, hy, congrArg String.ofList (hsame.trans hhtml)⟩
  · -- The children are collected one by one.
    have hslot : (part r defs c).slot = .ok (some e) := StandsAs.own.eq_of_chosen hchosen
    rw [content_of_not_mixed hp] at h
    refine shows_of_mem helement (mem_of_collect ?_ h)
    rw [List.map_map, List.mem_map]
    exact ⟨c, hchildren ▸ List.mem_append_right _ (List.mem_cons_self ..), hslot⟩

/-- The content of a node is there if each of its children is, written completely where all of
them are written out. -/
theorem content_succeeds (hparent : isPhrasingParent p = true)
    (hwritten : ∀ k ∈ p.children, ∃ h, (part r defs k).fragment = .ok h)
    (hcomplete : Mixed p → ∀ k ∈ p.children, WritesComplete r defs k) :
    ∃ ns, content p (p.children.map (part r defs)) = .ok ns := by
  by_cases hp : Mixed p
  · have hall : ∀ q ∈ p.children.map (part r defs), ∃ h, q.fragment = .ok h := by
      rw [List.forall_mem_map]
      exact hwritten
    have hall' : ∀ q ∈ p.children.map (part r defs), ∀ h, q.fragment = .ok h → Complete h := by
      rw [List.forall_mem_map]
      exact hcomplete hp
    obtain ⟨text, htext⟩ := fragment_succeeds hall
    obtain ⟨ns, hns⟩ := Option.isSome_iff_exists.1 (fragment_complete hall' htext).reads
    refine ⟨ns, ?_⟩
    rw [content_of_mixed hparent hp, htext]
    show read text = .ok ns
    rw [read, hns]
  · rw [content_of_not_mixed hp]
    refine ⟨_, collect_eq_ok.2 ⟨?_, rfl⟩⟩
    rw [List.map_map, List.forall_mem_map]
    intro k hk
    have hhtml : k.is .html = false := by
      rw [← Bool.not_eq_true, Mdast.Node.is_iff]
      exact fun hkind => hp ⟨k, hk, hkind⟩
    obtain ⟨h, hfragment⟩ := hwritten k hk
    rw [Part.fragment, part_node, hhtml, Bool.false_and, if_neg Bool.false_ne_true] at hfragment
    rw [Function.comp_apply]
    cases hslot : (part r defs k).slot with
    | error e =>
        rw [hslot] at hfragment
        cases hfragment
    | ok o => exact ⟨o, rfl⟩

/-- Raw HTML that no matcher selects is written as it is. -/
theorem writesComplete_of_html {n : Mdast.Node} (hkind : n.kind? = some .html)
    (hfind : r.find? n = none) (h : Complete (n.value.getD "").toList) :
    WritesComplete r defs n := by
  intro s hs
  have hhtml : n.is .html = true := Mdast.Node.is_iff.2 hkind
  have hchosen : (part r defs n).chosen.isNone = true := by
    rw [chosen_of_find?_none defs hfind]
    rfl
  rw [Part.fragment, part_node, hhtml, hchosen, Bool.and_self, if_pos rfl] at hs
  rwa [← Except.ok.inj hs]

/-- Any other node is written as what it is rendered to. -/
theorem writesComplete_of_slot {n : Mdast.Node} {o : Option Node}
    (hrendered : n.kind? ≠ some .html ∨ (r.find? n).isSome = true)
    (hslot : (part r defs n).slot = .ok o) (h : ∀ k ∈ o, Readable k) :
    WritesComplete r defs n := by
  intro s hs
  have hplain : ((part r defs n).node.is .html && (part r defs n).chosen.isNone) = false := by
    rw [Bool.and_eq_false_iff, part_node]
    rcases hrendered with hkind | hfind
    · exact .inl (Bool.eq_false_iff.2 fun hhtml => hkind (Mdast.Node.is_iff.1 hhtml))
    · obtain ⟨m, hm⟩ := Option.isSome_iff_exists.1 hfind
      rw [chosen_of_find?_some defs hm]
      exact .inr rfl
  rw [Part.fragment, hplain, if_neg Bool.false_ne_true, hslot] at hs
  obtain rfl := Except.ok.inj hs
  cases o with
  | none => exact Complete.nil
  | some k =>
      obtain ⟨w, hw, hhtml⟩ := h k rfl
      show Complete k.html
      rw [← hhtml]
      exact Markup.complete_html hw

/-! ## Nodes -/

/-- A phrasing parent that shows its content shows it in one element. -/
theorem phrasing_slot (hparent : isPhrasingParent p = true) (hfind : r.find? p = none)
    (hshows : showsContent defs p = true) :
    ∃ t as, (part r defs p).slot =
      (content p (p.children.map (part r defs))).map fun cs => some (.element t as cs) := by
  have hslot : (part r defs p).slot = standard (site r defs p) >>= Output.slot :=
    slot_of_find?_none defs hfind
  have hwrap : ∀ {k : Mdast.Kind} {t : String} {as : Dict String}, p.kind? = some k →
      (ofKind (site r defs p) k =
        (site r defs p).content.map fun cs => .node (.element t as cs)) →
      (part r defs p).slot =
        (content p (p.children.map (part r defs))).map fun cs => some (.element t as cs) := by
    intro k t as hkind hofKind
    rw [hslot, standard, site_node, hkind]
    simp only [hofKind]
    show ((content p (p.children.map (part r defs))).map _ >>= Output.slot) = _
    cases content p (p.children.map (part r defs)) <;> rfl
  unfold isPhrasingParent at hparent
  split at hparent
  · next hkind => exact ⟨_, _, hwrap hkind rfl⟩
  · next hkind => exact ⟨_, _, hwrap hkind rfl⟩
  · next hkind => exact ⟨_, _, hwrap hkind rfl⟩
  · next hkind => exact ⟨_, _, hwrap hkind rfl⟩
  · next hkind => exact ⟨_, _, hwrap hkind rfl⟩
  · next hkind => exact ⟨_, _, hwrap hkind rfl⟩
  · next hkind =>
      rw [showsContent, hkind] at hshows
      obtain ⟨d, hd⟩ := Option.isSome_iff_exists.1 hshows
      have hreferent : (site r defs p).referent? = some d := hd
      refine ⟨"a", .ofList (("href", d.fields.url.getD "") :: titleAttr d.fields.title),
        hwrap hkind ?_⟩
      rw [ofKind, linkReference, hreferent]
      cases (site r defs p).content <;> rfl
  · next hkind => exact ⟨_, _, hwrap hkind rfl⟩
  · cases hparent

/-- An element around nodes that show an element shows it. -/
theorem shows_of_map_element {α : Type} {y : Except Error α} {f : α → Node} {o : Option Node}
    {cs : α → List Node} (hf : ∀ a, ∃ t as, f a = .element t as (cs a))
    (hy : ∀ a, y = .ok a → Shows (cs a) e) (ho : y.map (fun a => some (f a)) = .ok o) :
    ∃ n, o = some n ∧ ∃ m ∈ n.elements, m.outerHtml = e.outerHtml := by
  cases y with
  | error => cases ho
  | ok a =>
      obtain ⟨t, as, hfa⟩ := hf a
      refine ⟨f a, (Except.ok.inj ho).symm, ?_⟩
      rw [hfa]
      exact (hy a rfl).element t as

/-- A row shows an element that a matcher puts in the place of one of its cells. -/
theorem cells_show {tag : String} (htag : tag ∈ ["th", "td"]) {as : List (Option Align)}
    (hc : c ∈ p.children) (helement : e.isElement = true)
    (hchosen : (part r defs c).chosen = some (.ok (some e))) {ns : List Node}
    (h : collect (cells tag as (p.children.map (part r defs))) = .ok ns) :
    Shows (wrapLoose ns) e := by
  have hstand : StandAllAs r defs .cell p.children (cells tag as (p.children.map (part r defs))) :=
    standAllAs_cells htag
  obtain ⟨x, hx, hcell⟩ := hstand.exists_of_mem hc
  obtain rfl := hcell.eq_of_chosen hchosen
  exact shows_of_mem helement (mem_wrapLoose (mem_of_collect hx h))

/-- The cells of a row are there if each child is rendered as a cell. -/
theorem cells_succeed {tag : String} (htag : tag ∈ ["th", "td"]) (as : List (Option Align))
    (hcells : ∀ k ∈ p.children, ∀ y, StandsAs (part r defs k) .cell y → ∃ o, y = .ok o) :
    ∃ ns, collect (cells tag as (p.children.map (part r defs))) = .ok ns := by
  have hstand : StandAllAs r defs .cell p.children (cells tag as (p.children.map (part r defs))) :=
    standAllAs_cells htag
  refine ⟨_, collect_eq_ok.2 ⟨fun y hy => ?_, rfl⟩⟩
  obtain ⟨k, hk, hcell⟩ := hstand.exists_of_mem_right hy
  exact hcells k hk y hcell

/-- An element that a matcher puts in place of a child of a phrasing parent stands in what the
parent is rendered to, in whatever role.  Where raw HTML stands among the children, this asks for
an element that HTML can tell and for complete markup in front of it, and a reference has to have
its definition.  The parent is rendered if its children are, written completely where all of them
are written out; as the row of a table it is rendered if its children are as cells. -/
theorem embeds_element {A B : List Mdast.Node} {m : Matcher} {role : Role} {x : Slot}
    (hparent : isPhrasingParent p = true) (hstandard : r.find? p = none)
    (hchildren : p.children = A ++ c :: B) (hfirst : r.find? c = some m)
    (hreturns : m.render (site r defs c) = .ok (.node e)) (helement : e.isElement = true)
    (hx : StandsAs (part r defs p) role x) (hshows : role = .own → showsContent defs p = true)
    (hmixed : Mixed p → Readable e ∧ ∀ a ∈ A, WritesComplete r defs a) :
    (∀ o, x = .ok o → ∃ n, o = some n ∧ ∃ y ∈ n.elements, y.outerHtml = e.outerHtml) ∧
      (role ≠ .row → (∀ k ∈ p.children, ∃ h, (part r defs k).fragment = .ok h) →
        (Mixed p → ∀ k ∈ p.children, WritesComplete r defs k) → ∃ n, x = .ok (some n)) ∧
      (role = .row →
        (∀ k ∈ p.children, ∀ y, StandsAs (part r defs k) .cell y → ∃ o, y = .ok o) →
        ∃ n, x = .ok (some n)) := by
  have hunchosen := chosen_of_find?_none defs hstandard
  have hchosen : (part r defs c).chosen = some (.ok (some e)) := by
    rw [chosen_of_find?_some defs hfirst, hreturns]
    rfl
  have hcontent : ∀ ns, content p (p.children.map (part r defs)) = .ok ns → Shows ns e :=
    fun ns => content_shows hparent hchildren helement hchosen hmixed
  cases hx with
  | own =>
      obtain ⟨t, as, hslot⟩ := phrasing_slot hparent hstandard (hshows rfl)
      rw [hslot]
      refine ⟨fun o => shows_of_map_element (fun ns => ⟨t, as, rfl⟩) hcontent, ?_, ?_⟩
      · intro _ hwritten hcomplete
        obtain ⟨ns, hns⟩ := content_succeeds hparent hwritten hcomplete
        exact ⟨_, by rw [hns]; rfl⟩
      · intro hrole
        cases hrole
  | cell a ht =>
      rw [Part.slotOr, hunchosen, Option.getD_none, part_content]
      refine ⟨fun o => shows_of_map_element (fun ns => ⟨_, _, rfl⟩) hcontent, ?_, ?_⟩
      · intro _ hwritten hcomplete
        obtain ⟨ns, hns⟩ := content_succeeds hparent hwritten hcomplete
        exact ⟨_, by rw [hns]; rfl⟩
      · intro hrole
        cases hrole
  | @row tag as ht =>
      rw [rowSlot, Part.slotOr, hunchosen, Option.getD_none, part_parts]
      -- A row renders its children as cells, so it does not come to its content.
      refine ⟨fun o ho => ?_, fun hrole => absurd rfl hrole, fun _ hrendered => ?_⟩
      · have hc : c ∈ p.children := hchildren ▸ List.mem_append_right _ (List.mem_cons_self ..)
        have hcells : ∀ ns, collect (cells tag as (p.children.map (part r defs))) = .ok ns →
            Shows (wrapLoose ns) e := fun ns => cells_show ht hc helement hchosen
        refine shows_of_map_element (f := fun cs => .plain "tr" (wrapLoose cs))
          (fun ns => ⟨_, _, rfl⟩) hcells ?_
        rw [row] at ho
        generalize collect (cells tag as (p.children.map (part r defs))) = y at ho
        cases y with
        | error => cases ho
        | ok ns => exact ho
      · obtain ⟨ns, hns⟩ := cells_succeed ht as hrendered
        exact ⟨_, by rw [row, hns]; rfl⟩

end

/-! ## Examples -/

/-- The matcher that puts an element in place of the nodes of a kind. -/
def puts (k : Mdast.Kind) (e : Node) : Matcher := ⟨.kind k, fun _ => .ok (.node e)⟩

/-- A custom element. -/
def badge : Node := .element "my-badge" (.ofList [("data-n", "\"1\""), ("hidden", "")]) [.text "<>"]

theorem badge_readable : Readable badge :=
  ⟨badge, .element (by decide) (by decide) (by decide) (by decide) (by simpa using .text _), rfl⟩

/-- An image between inline tags, behind text and an element in raw HTML. -/
def badged : Mdast.Node :=
  .ofKind .paragraph
    [.text "1 < 2 &", .literal .html "<i>x</i>", .literal .html "<b>", .ofKind .image [],
      .literal .html "</b>"]

theorem badged_embeds :
    Mixed badged ∧ ∃ n, slot [puts .image badge] [] badged = .ok (some n) ∧
      ∃ y ∈ n.elements, y.outerHtml = badge.outerHtml := by
  have hmixed : Mixed badged :=
    ⟨.literal .html "<i>x</i>", List.mem_cons_of_mem _ (List.mem_cons_self ..), by decide⟩
  have hwritten : ∀ k ∈ badged.children, ∃ h,
      (part [puts .image badge] [] k).fragment = .ok h := by
    simp only [badged, Mdast.Node.ofKind, Mdast.Node.children, List.forall_mem_cons]
    exact ⟨⟨_, rfl⟩, ⟨_, rfl⟩, ⟨_, rfl⟩, ⟨_, rfl⟩, ⟨_, rfl⟩, by simp⟩
  have hcomplete : ∀ k ∈ badged.children, WritesComplete [puts .image badge] [] k := by
    have htext : ∀ k ∈ some (Node.text "1 < 2 &"), Readable k := by
      simpa using ⟨_, .text _, rfl⟩
    have himage : ∀ k ∈ some badge, Readable k := by simpa using badge_readable
    have hitalic : Complete (Node.htmlAll [.plain "i" [.text "x"]]) := by
      refine Markup.complete_htmlAll ?_
      simpa using .element (by decide) (by decide) (by decide) (by decide) (by simpa using .text _)
    have hopen : Complete (View.startTagHtml "b" .empty) :=
      Markup.complete_startTagHtml (by decide) (by decide) (by decide)
    have hclose : Complete (View.endTagHtml "b") := Markup.complete_endTagHtml (by decide)
    simp only [badged, Mdast.Node.ofKind, Mdast.Node.children, List.forall_mem_cons]
    exact ⟨writesComplete_of_slot (.inl (by decide)) rfl htext,
      writesComplete_of_html (by decide) rfl hitalic,
      writesComplete_of_html (by decide) rfl hopen,
      writesComplete_of_slot (.inl (by decide)) rfl himage,
      writesComplete_of_html (by decide) rfl hclose, by simp⟩
  have hembeds := embeds_element
    (A := [.text "1 < 2 &", .literal .html "<i>x</i>", .literal .html "<b>"])
    (p := badged) (c := .ofKind .image []) (e := badge) (r := [puts .image badge]) (by decide) rfl
    rfl rfl rfl rfl .own (fun _ => by decide) fun _ =>
      ⟨badge_readable, fun a ha => hcomplete a (List.mem_append_left _ ha)⟩
  obtain ⟨n, hn⟩ := hembeds.2.1 (by decide) hwritten fun _ => hcomplete
  obtain ⟨_, hsome, hy⟩ := hembeds.1 _ hn
  cases hsome
  exact ⟨hmixed, n, hn, hy⟩

/-- An element that a matcher puts in place of a child of a phrasing parent, which is rendered in
the standard way, is missing in what the parent is rendered to. -/
structure Misses (r : Registry) (p c : Mdast.Node) (e : Node) : Prop where
  parent : isPhrasingParent p = true
  standard : r.find? p = none
  child : c ∈ p.children
  returns : ∃ m, r.find? c = some m ∧ m.render (site r (definitions p) c) = .ok (.node e)
  element : e.isElement = true
  missing : ∃ n, slot r (definitions p) p = .ok (some n) ∧
    ∀ y ∈ n.elements, y.outerHtml ≠ e.outerHtml

/-- No element of a rendered node is written in a certain way if a check of each finds so. -/
theorem missing_of_all {r : Registry} {defs : List (String × Mdast.Node)} {p : Mdast.Node}
    {e : Node} (h : (slot r defs p).map (fun o => o.map fun n =>
      n.elements.all (·.outerHtml != e.outerHtml)) = .ok (some true)) :
    ∃ n, slot r defs p = .ok (some n) ∧ ∀ y ∈ n.elements, y.outerHtml ≠ e.outerHtml := by
  cases hslot : slot r defs p with
  | error =>
      rw [hslot] at h
      cases h
  | ok o =>
      rw [hslot] at h
      obtain ⟨n, rfl, hall⟩ := Option.map_eq_some_iff.1 (Except.ok.inj h)
      rw [List.all_eq_true] at hall
      exact ⟨n, rfl, fun y hy => bne_iff_ne.1 (hall y hy)⟩

/-- An image in a line with raw HTML. -/
def drawn : Mdast.Node := .ofKind .paragraph [.ofKind .image [], .literal .html "<b>x</b>"]

/-- An element with a capital in a name. -/
def drawing : Node := .element "svg" (.ofList [("viewBox", "0 0 1 1")]) []

/-- The same between line breaks. -/
def enclosed : Mdast.Node :=
  .ofKind .paragraph
    [.ofKind .break [], .ofKind .image [], .ofKind .break [], .literal .html "<b>x</b>"]

/-- An element with a quote in a name, which HTML takes for that of a value. -/
def quoted : Node := .element "hr" (.ofList [("x\"", "1")]) []

/-- A reference without definition. -/
def dangling : Mdast.Node := .ofKind .linkReference [.ofKind .image []]

/-- Not every element is embedded: HTML does not tell capitals in names, a sibling in front may
swallow what follows it, and a reference without definition is rendered as text. -/
theorem not_embedded :
    Misses [puts .image drawing] drawn (.ofKind .image []) drawing ∧
      Misses [puts .image badge, puts .break quoted] enclosed (.ofKind .image []) badge ∧
      Misses [puts .image badge] dangling (.ofKind .image []) badge := by
  have hdrawn : Misses [puts .image drawing] drawn (.ofKind .image []) drawing :=
    ⟨by decide, rfl, List.mem_cons_self .., ⟨_, rfl, rfl⟩, rfl, missing_of_all (by decide +kernel)⟩
  have henclosed :
      Misses [puts .image badge, puts .break quoted] enclosed (.ofKind .image []) badge :=
    ⟨by decide, rfl, List.mem_cons_of_mem _ (List.mem_cons_self ..), ⟨_, rfl, rfl⟩, rfl,
      missing_of_all (by decide +kernel)⟩
  have hdangling : Misses [puts .image badge] dangling (.ofKind .image []) badge :=
    ⟨by decide, rfl, List.mem_cons_self .., ⟨_, rfl, rfl⟩, rfl, missing_of_all (by decide +kernel)⟩
  exact ⟨hdrawn, henclosed, hdangling⟩

end Render

end PagePress
