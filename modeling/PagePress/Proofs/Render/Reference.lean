import PagePress.Proofs.Render.Site

/-!
# References — links and images by identifier

A reference is rendered with what the first definition of its identifier says, wherever in the
document that stands, and as it was written if there is none.

* `LeadsTo` tells an element that shows the address and the title of a definition;
* `linkReference_slot` and `imageReference_slot`: what references leave in their places;
* `references_resolve` puts them together with the search for definitions.
-/

namespace PagePress

namespace Render

open View (Node)

/-! ## Elements with a target -/

/-- An element of a tag with the address of a definition in one of its attributes and the title of
the definition, if that has any. -/
structure LeadsTo (d : Mdast.Node) (tag urlName : String) (e : Node) : Prop where
  tag : e.tag? = some tag
  url : e.attr? urlName = some (d.fields.url.getD "")
  title : e.attr? "title" = d.fields.title

theorem leadsTo_anchor (d : Mdast.Node) (cs : List Node) :
    LeadsTo d "a" "href" (anchor d.fields.url d.fields.title cs) := by
  refine ⟨rfl, ?_, ?_⟩ <;> rw [anchor, element, Node.attr?, Dict.get?_ofList] <;>
    cases d.fields.title <;> rfl

theorem leadsTo_image (d : Mdast.Node) (alt : Option String) :
    LeadsTo d "img" "src" (image d.fields.url alt d.fields.title) := by
  refine ⟨rfl, ?_, ?_⟩ <;> rw [image, element, Node.attr?, Dict.get?_ofList] <;>
    cases d.fields.title <;> rfl

theorem attr?_image_alt (url alt title : Option String) :
    (image url alt title).attr? "alt" = some (alt.getD "") := by
  rw [image, element, Node.attr?, Dict.get?_ofList]
  cases title <;> rfl

/-! ## References -/

section

variable {r : Registry} {root n : Mdast.Node} {i : String}

/-- The text of a link as a reference is written. -/
def linkText (n : Mdast.Node) : String := "[" ++ n.textContent ++ "]" ++ referenceSuffix n.fields

/-- The text of an image as a reference is written. -/
def imageText (n : Mdast.Node) : String :=
  "![" ++ n.fields.alt.getD "" ++ "]" ++ referenceSuffix n.fields

theorem referent?_site (hi : n.fields.identifier = some i) :
    (site r (definitions root) n).referent? = root.walk.find? (defines i) := by
  rw [Site.referent?, site_node, hi, ← definition?_eq_find?]
  rfl

theorem linkReference_slot (hn : n.kind? = some .linkReference) (hi : n.fields.identifier = some i)
    (hfind : r.find? n = none) :
    slot r (definitions root) n = match root.walk.find? (defines i) with
      | some d => (site r (definitions root) n).content.map fun cs =>
          some (anchor d.fields.url d.fields.title cs)
      | none => .ok (some (.text (linkText n))) := by
  rw [slot_of_find?_none _ hfind, standard, site_node, hn]
  dsimp only
  rw [ofKind, linkReference, referent?_site hi]
  cases root.walk.find? (defines i) with
  | none => rfl
  | some d => cases (site r (definitions root) n).content <;> rfl

theorem imageReference_slot (hn : n.kind? = some .imageReference)
    (hi : n.fields.identifier = some i) (hfind : r.find? n = none) :
    slot r (definitions root) n = match root.walk.find? (defines i) with
      | some d => .ok (some (image d.fields.url n.fields.alt d.fields.title))
      | none => .ok (some (.text (imageText n))) := by
  rw [slot_of_find?_none _ hfind, standard, site_node, hn]
  dsimp only
  rw [ofKind, imageReference, referent?_site hi]
  cases root.walk.find? (defines i) <;> rfl

/-- Whatever a link to a definition leaves in its place is no text. -/
theorem map_anchor_ne_text (x : Except Error (List Node)) (d : Mdast.Node) (t : String) :
    (x.map fun cs => some (anchor d.fields.url d.fields.title cs)) ≠ .ok (some (.text t)) := by
  cases x with
  | error e => exact nofun
  | ok cs => exact fun h => nomatch Option.some.inj (Except.ok.inj h)

end

/-- A walk through a document visits its nodes in document order, each once, and an identifier
stands for the first definition of it on this walk, letter case aside.  A link reference that no
matcher selects becomes a link around its content, and an image reference an image, with the
address and the title of the definition that its identifier stands for; each becomes the text that
was written exactly if the identifier stands for nothing. -/
theorem references_resolve (r : Registry) (root : Mdast.Node) :
    (∀ steps, (Mdast.Walk.ofNode root).visits steps = root.walk.take steps) ∧
      root.visits = root.walk ∧
      (∀ i, definition? root i = root.walk.find? (defines i)) ∧
      ∀ n i, n.fields.identifier = some i → r.find? n = none →
        (n.kind? = some .linkReference →
          (∀ d, root.walk.find? (defines i) = some d →
            ∃ link : List Node → Node,
              (∀ cs, LeadsTo d "a" "href" (link cs) ∧ (link cs).children = cs) ∧
              slot r (definitions root) n =
                (site r (definitions root) n).content.map fun cs => some (link cs)) ∧
          (slot r (definitions root) n = .ok (some (.text (linkText n))) ↔
            root.walk.find? (defines i) = none)) ∧
        (n.kind? = some .imageReference →
          (∀ d, root.walk.find? (defines i) = some d →
            ∃ e, slot r (definitions root) n = .ok (some e) ∧ LeadsTo d "img" "src" e ∧
              e.attr? "alt" = some (n.fields.alt.getD "")) ∧
          (slot r (definitions root) n = .ok (some (.text (imageText n))) ↔
            root.walk.find? (defines i) = none)) := by
  refine ⟨fun steps => ?_, root.visits_eq_walk, definition?_eq_find? root, ?_⟩
  · rw [Mdast.Walk.visits_eq_take]
    exact congrArg (List.take steps) (List.append_nil root.walk)
  intro n i hi hfind
  refine ⟨fun hn => ?_, fun hn => ?_⟩
  · rw [linkReference_slot hn hi hfind]
    cases root.walk.find? (defines i) with
    | none => exact ⟨nofun, fun _ => rfl, fun _ => rfl⟩
    | some d =>
        refine ⟨?_, fun h => absurd h (map_anchor_ne_text _ d _), nofun⟩
        rintro d ⟨⟩
        exact ⟨anchor d.fields.url d.fields.title, fun cs => ⟨leadsTo_anchor d cs, rfl⟩, rfl⟩
  · rw [imageReference_slot hn hi hfind]
    cases root.walk.find? (defines i) with
    | none => exact ⟨nofun, fun _ => rfl, fun _ => rfl⟩
    | some d =>
        refine ⟨?_, nofun, nofun⟩
        rintro d ⟨⟩
        exact ⟨_, rfl, leadsTo_image d _, attr?_image_alt ..⟩

/-- A definition of an identifier with a title. -/
def definitionOf (i url title : String) : Mdast.Node :=
  .mk "definition"
    { Mdast.Fields.none with identifier := some i, url := some url, title := some title } []

/-- A reference to an identifier. -/
def referenceTo (k : Mdast.Kind) (i : String) (children : List Mdast.Node) : Mdast.Node :=
  .mk k.name
    { Mdast.Fields.none with identifier := some i, alt := some "pic", referenceType := some "full" }
    children

/-- A reference that is written in another letter case than its definitions. -/
def docsLink : Mdast.Node := referenceTo .linkReference "Docs" [.text "read"]

/-- A reference without a definition. -/
def goneLink : Mdast.Node := referenceTo .linkReference "gone" [.text "lost"]

/-- References in front of the definition of one of them, which stands in a quotation and is given
again behind it. -/
def citing : Mdast.Node :=
  .ofKind .root
    [.ofKind .paragraph [docsLink, goneLink],
      .ofKind .blockquote [definitionOf "docs" "/first" "one"],
      definitionOf "DOCS" "/second" "two"]

theorem citing_resolves :
    docsLink.fields.identifier = some "Docs" ∧ Registry.find? [] docsLink = none ∧
      goneLink.fields.identifier = some "gone" ∧ Registry.find? [] goneLink = none ∧
      (∃ link : List Node → Node,
        (∀ cs, LeadsTo (definitionOf "docs" "/first" "one") "a" "href" (link cs) ∧
          (link cs).children = cs) ∧
        slot [] (definitions citing) docsLink =
          (site [] (definitions citing) docsLink).content.map fun cs => some (link cs)) ∧
      slot [] (definitions citing) goneLink = .ok (some (.text "[lost][gone]")) := by
  have hfirst : citing.walk.find? (defines "Docs") = some (definitionOf "docs" "/first" "one") :=
    rfl
  have hnone : citing.walk.find? (defines "gone") = none := rfl
  have htext : linkText goneLink = "[lost][gone]" := by decide +kernel
  obtain ⟨-, -, -, hrefers⟩ := references_resolve [] citing
  have hdocs := (hrefers docsLink "Docs" rfl rfl).1 (by decide +kernel)
  have hgone := (hrefers goneLink "gone" rfl rfl).1 (by decide +kernel)
  exact ⟨rfl, rfl, rfl, rfl, hdocs.1 _ hfirst, htext ▸ hgone.2.2 hnone⟩

end Render

end PagePress
