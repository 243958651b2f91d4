import PagePress.Proofs.Pipeline.Sound
import PagePress.Proofs.Render.Site

/-!
# Top level — the elements at the top of a rendered document

A document is one node: several nodes at its top are put into a container, and the list of the
top-level elements is recovered from it.

* `topNodes` are the nodes that the children of a document leave in their places;
* `document_of_root`: the document is made of them, a container only if there are several;
* `topLevelHtml_document` and `topLevelHtml_container_ne`: what is recovered are the elements among
  them, except where the only one is a container;
* `makeHtml_children` says so of the stage.
-/

namespace PagePress

namespace Render

open View (Node)

variable {r : Registry} {root : Mdast.Node}

/-! ## Nodes at the top -/

/-- The nodes that the children of a document leave in their places. -/
def topNodes (r : Registry) (root : Mdast.Node) : List Node :=
  root.children.filterMap fun c => (slot r (definitions root) c).toOption.join

/-- A document that no matcher selects is made of what its children leave. -/
theorem document_of_root (hroot : root.kind? = some .root) (hfind : r.find? root = none)
    {n : Node} (h : document r root = .ok n) :
    (∀ c ∈ root.children, ∃ o, slot r (definitions root) c = .ok o) ∧
      n = (gather (separate (topNodes r root))).getD (.plain containerTag []) := by
  have hline : isPhrasingParent root = false := by
    rw [isPhrasingParent, hroot]
  have hcontent : (site r (definitions root) root).content =
      collect (root.children.map (slot r (definitions root))) := by
    rw [site, content, hline, Bool.false_and, if_neg Bool.false_ne_true, List.map_map]
    rfl
  have hslot : slot r (definitions root) root =
      (collect (root.children.map (slot r (definitions root)))).map
        fun ns => gather (separate ns) := by
    rw [slot_of_find?_none _ hfind, standard, site_node, hroot, ← hcontent]
    dsimp only
    rw [ofKind]
    cases (site r (definitions root) root).content <;> rfl
  rw [document, hslot] at h
  cases hcollect : collect (root.children.map (slot r (definitions root))) with
  | error e =>
      rw [hcollect] at h
      cases h
  | ok ns =>
      rw [hcollect] at h
      obtain ⟨hfilled, rfl⟩ := collect_eq_ok.1 hcollect
      rw [List.forall_mem_map] at hfilled
      rw [List.filterMap_map] at h
      exact ⟨hfilled, (Except.ok.inj h).symm⟩

end Render

namespace Pipeline

open Render View

/-! ## Recovering the elements -/

theorem filter_isElement_separate (ns : List Node) :
    (separate ns).filter Node.isElement = ns.filter Node.isElement := by
  induction ns using separate.induct with
  | case1 => rfl
  | case2 n => rfl
  | case3 n ns hns ih =>
      rw [separate]
      · rw [List.filter_cons, List.filter_cons_of_neg (by decide), ih, ← List.filter_cons]
      · exact hns

/-- A container stands for the elements in it. -/
theorem topLevelHtml_container (cs : List Node) :
    topLevelHtml (.plain containerTag cs) = (cs.filter Node.isElement).map Node.outerHtml := rfl

theorem topLevelHtml_of_not_container {n : Node} (hn : n.isElement = true)
    (h : ∀ cs, n ≠ .plain containerTag cs) : topLevelHtml n = [n.outerHtml] := by
  cases n with
  | text s => cases hn
  | element t as cs =>
      rw [topLevelHtml, if_neg]
      rintro ⟨rfl, hempty⟩
      have hattrs : as = .empty := by
        rw [Dict.isEmpty, List.isEmpty_iff] at hempty
        exact Dict.ext hempty
      exact h cs (by rw [hattrs]; rfl)

/-- The elements at the top of a document are recovered, unless the only node there is a
container. -/
theorem topLevelHtml_document {ns : List Node} (h : ∀ cs, ns ≠ [.plain containerTag cs]) :
    topLevelHtml (asElement ((gather (separate ns)).getD (.plain containerTag []))) =
      (ns.filter Node.isElement).map Node.outerHtml := by
  rcases ns with _ | ⟨n, _ | ⟨m, ns⟩⟩
  · rfl
  · cases n with
    | text s => rfl
    | element t as cs =>
        refine topLevelHtml_of_not_container rfl fun ds heq => ?_
        exact h ds (congrArg (fun n => [n]) heq)
  · -- Several nodes: the line feeds between them are no elements.
    rw [← filter_isElement_separate, ← topLevelHtml_container]
    rfl

/-- The HTML of a container is longer than that of what it holds, and so not recovered from it. -/
theorem topLevelHtml_container_ne (cs : List Node) :
    topLevelHtml (.plain containerTag cs) ≠ [(Node.plain containerTag cs).outerHtml] := by
  rw [topLevelHtml_container]
  intro heq
  have hmem : (Node.plain containerTag cs).outerHtml ∈
      (cs.filter Node.isElement).map Node.outerHtml := by
    rw [heq]
    exact List.mem_singleton_self _
  obtain ⟨n, hn, hsame⟩ := List.mem_map.1 hmem
  obtain ⟨A, B, hsplit⟩ := List.append_of_mem (List.mem_of_mem_filter hn)
  have hhtml : n.html = (Node.plain containerTag cs).html := String.ofList_injective hsame
  have hlength := congrArg List.length hhtml
  -- The HTML of the container holds that of the node and its own tags besides.
  rw [html_plain (by decide), hsplit, Node.htmlAll_append, Node.htmlAll] at hlength
  simp only [List.length_append] at hlength
  have hpos : 0 < ("<" ++ containerTag ++ ">").toList.length := by decide
  omega

/-! ## The stage -/

theorem makeHtml_run {r : Render.Registry} {root : Mdast.Node} {s : State} {n : Node}
    (hmdast : s.content.mdast = some root) (h : document r root = .ok n) (ctx : Context) :
    (makeHtml r).run ctx s =
      .completed (s.mapContent fun c => c.withDocument (asElement n)) [] := by
  simp only [makeHtml, hmdast, h]

theorem makeHtml_completes {r : Render.Registry} {root : Mdast.Node} {s t : State} {ctx : Context}
    {log : Log} (hmdast : s.content.mdast = some root)
    (hrun : (makeHtml r).run ctx s = .completed t log) :
    ∃ n, document r root = .ok n ∧ t = s.mapContent fun c => c.withDocument (asElement n) := by
  cases hdocument : document r root with
  | error e =>
      simp only [makeHtml, hmdast, hdocument] at hrun
      cases congrArg Outcome.failure hrun
  | ok n =>
      rw [makeHtml_run hmdast hdocument] at hrun
      exact ⟨n, rfl, (congrArg Outcome.state hrun).symm⟩

/-- Rendering a document that no matcher selects: every child leaves its slot without an error, the
document is an element, and its HTML is stored.  The list of children is the HTML of the elements
among what the children of the root leave, unless the only node there is a container, which stands
for what it holds. -/
theorem makeHtml_children {r : Render.Registry} {root : Mdast.Node} {s t : State} {ctx : Context}
    {log : Log} (hroot : root.kind? = some .root) (hfind : r.find? root = none)
    (hmdast : s.content.mdast = some root)
    (hrun : (makeHtml r).run ctx s = .completed t log) :
    (∀ c ∈ root.children, ∃ o, slot r (definitions root) c = .ok o) ∧
      (∃ document, document.isElement = true ∧ t.content.document = some document ∧
        t.content.html = some document.outerHtml) ∧
      (t.content.children = ((topNodes r root).filter Node.isElement).map Node.outerHtml ↔
        ∀ cs, topNodes r root ≠ [.plain containerTag cs]) ∧
      ∀ cs, topNodes r root = [.plain containerTag cs] →
        t.content.children = (cs.filter Node.isElement).map Node.outerHtml := by
  obtain ⟨n, hdocument, rfl⟩ := makeHtml_completes hmdast hrun
  obtain ⟨hfilled, hn⟩ := document_of_root hroot hfind hdocument
  have hchildren : (s.mapContent fun c => c.withDocument (asElement n)).content.children =
      topLevelHtml (asElement n) := rfl
  -- A container that stands alone is the document.
  have hcontainer : ∀ cs, topNodes r root = [.plain containerTag cs] →
      asElement n = .plain containerTag cs := by
    intro cs hcs
    rw [hn, hcs]
    rfl
  rw [hchildren]
  refine ⟨hfilled, ⟨asElement n, isElement_asElement n, rfl, rfl⟩, ⟨?_, ?_⟩, ?_⟩
  · intro heq cs hcs
    rw [hcontainer cs hcs, hcs] at heq
    exact topLevelHtml_container_ne cs heq
  · intro hne
    rw [hn]
    exact topLevelHtml_document hne
  · intro cs hcs
    rw [hcontainer cs hcs]
    exact topLevelHtml_container cs

/-- A state in which a document was read. -/
def parsed (root : Mdast.Node) : State :=
  State.empty.mapContent fun c => { c with mdast := some root }

/-- A context without parameters and secrets. -/
def bareContext : Context := ⟨.empty, .empty⟩

/-- A heading, metadata, a text and raw HTML. -/
def sections : Mdast.Node :=
  .ofKind .root
    [.ofKind .heading [.text "Title"], .literal .yaml "a: b", .text "b",
      .literal .html "<div>a</div>"]

/-- Headings as markup with two elements. -/
def anchored : Render.Registry := [⟨.kind .heading, fun _ => .ok (.markup "<a></a><h1>T</h1>")⟩]

theorem makeHtml_children_sections :
    sections.kind? = some .root ∧ anchored.find? sections = none ∧
      ∃ t, (makeHtml anchored).run bareContext (parsed sections) = .completed t [] ∧
        t.content.children = ["<div><a></a><h1>T</h1></div>", "<div>a</div>"] := by
  have hroot : sections.kind? = some .root := by decide
  have hfind : anchored.find? sections = none := rfl
  have hdocument : (document anchored sections).toOption.isSome = true := by decide +kernel
  have htop : (topNodes anchored sections).length = 3 := by decide +kernel
  have hhtml : ((topNodes anchored sections).filter Node.isElement).map Node.outerHtml =
      ["<div><a></a><h1>T</h1></div>", "<div>a</div>"] := by decide +kernel
  obtain ⟨n, hn⟩ := Option.isSome_iff_exists.1 hdocument
  have hrun := makeHtml_run (s := parsed sections) rfl (Fallible.eq_ok_of_toOption hn) bareContext
  have hchildren := (makeHtml_children hroot hfind rfl hrun).2.2.1.2 ?_
  · exact ⟨hroot, hfind, _, hrun, hchildren.trans hhtml⟩
  · intro cs hcs
    rw [hcs] at htop
    cases htop

/-- A document with one element of raw HTML, a container by its looks. -/
def soleContainer : Mdast.Node := .ofKind .root [.literal .html "<div>a</div>"]

/-- The only element of a document is not listed. -/
theorem soleContainer_not_listed :
    soleContainer.kind? = some .root ∧ Render.Registry.find? [] soleContainer = none ∧
      topNodes [] soleContainer = [.element "div" .empty [.text "a"]] ∧
      ∃ t, (makeHtml []).run bareContext (parsed soleContainer) = .completed t [] ∧
        t.content.children = [] ∧
        t.content.children ≠
          ((topNodes [] soleContainer).filter Node.isElement).map Node.outerHtml := by
  have htop : topNodes [] soleContainer = [.element "div" .empty [.text "a"]] := by decide +kernel
  have hdocument : document [] soleContainer = .ok (.element "div" .empty [.text "a"]) :=
    Fallible.eq_ok_of_toOption (by decide +kernel)
  have hrun := makeHtml_run (s := parsed soleContainer) rfl hdocument bareContext
  have hchildren : ((parsed soleContainer).mapContent fun c =>
      c.withDocument (asElement (.element "div" .empty [.text "a"]))).content.children = [] := rfl
  refine ⟨by decide, rfl, htop, _, hrun, hchildren, ?_⟩
  rw [hchildren, htop]
  decide

end Pipeline

end PagePress
