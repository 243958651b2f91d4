import PagePress.Proofs.Pipeline.Sections

/-!
# Metadata — what is noted of a document

What the stage notes is said here of the document, and not of the way in which it is found.

* `CountsAs` is the type that a node counts as, and `NamesTypes` are the class names for types;
* `HoldsMapping` is the front matter in a node, `IntroText` the introduction and `Spans` the place
  of a list of nodes;
* `Section.Describes` tells every field of a section from the nodes in it;
* `Content.Notes` does so for a document, and `notes_withMetadata` says that this is noted.
-/

namespace PagePress

namespace Pipeline

open Mdast (Kind Node)

/-! ## Types -/

/-- The type that a node counts as.  A paragraph counts as the one type that it holds, blank texts
apart, unless this is text. -/
inductive CountsAs (n : Node) : String → Prop where
  | held {type : String} : n.is .paragraph = true → HoldsOnly n type → type ≠ Kind.text.name →
      CountsAs n type
  | own : (∀ type, n.is .paragraph = true → HoldsOnly n type → type = Kind.text.name) →
      CountsAs n n.type

section

variable {n : Node} {type : String}

theorem effectiveType_of_held (hparagraph : n.is .paragraph = true) (hheld : HoldsOnly n type)
    (htext : type ≠ Kind.text.name) : effectiveType n = type := by
  rw [effectiveType, if_pos hparagraph, holdsOnly_iff.1 hheld]
  exact if_neg htext

theorem effectiveType_of_own
    (h : ∀ type, n.is .paragraph = true → HoldsOnly n type → type = Kind.text.name) :
    effectiveType n = n.type := by
  rw [effectiveType]
  split
  · next hparagraph =>
      split
      · next kind hkind => exact if_pos (h kind hparagraph (holdsOnly_iff.2 hkind))
      · rfl
  · rfl

theorem effectiveType_eq_iff : effectiveType n = type ↔ CountsAs n type := by
  constructor
  · rintro rfl
    -- Either nothing that the node holds decides, or the one type of all of it does.
    by_cases h : ∀ type, n.is .paragraph = true → HoldsOnly n type → type = Kind.text.name
    · rw [effectiveType_of_own h]
      exact .own h
    · push Not at h
      obtain ⟨type, hparagraph, hheld, htext⟩ := h
      rw [effectiveType_of_held hparagraph hheld htext]
      exact .held hparagraph hheld htext
  · intro h
    cases h with
    | held hparagraph hheld htext => exact effectiveType_of_held hparagraph hheld htext
    | own h => exact effectiveType_of_own h

end

theorem pairwise_insertText (t : String) {ts : List String} (h : ts.Pairwise (· < ·)) :
    (insertText t ts).Pairwise (· < ·) := by
  induction ts with
  | nil => exact List.pairwise_singleton _ _
  | cons u us ih =>
      rw [List.pairwise_cons] at h
      rw [insertText]
      split
      · next hlt =>
          refine List.pairwise_cons.2 ⟨fun v hv => ?_, List.pairwise_cons.2 h⟩
          rcases List.mem_cons.1 hv with rfl | hv
          · exact hlt
          · exact String.lt_trans hlt (h.1 v hv)
      · next hnlt =>
          split
          · exact List.pairwise_cons.2 h
          · next hne =>
              -- The text goes behind the first one, which is neither greater nor the same.
              refine List.pairwise_cons.2 ⟨fun v hv => ?_, ih h.2⟩
              rcases (mem_insertText us).1 hv with rfl | hv
              · refine Decidable.byContradiction fun hnot => hne ?_
                exact String.le_antisymm (String.not_lt.1 hnot) (String.not_lt.1 hnlt)
              · exact h.1 v hv

theorem pairwise_distinct (ts : List String) : (distinct ts).Pairwise (· < ·) := by
  induction ts with
  | nil => exact .nil
  | cons t ts ih => exact pairwise_insertText t ih

/-- The class names for types, with another one for a type that is the only one. -/
inductive NamesTypes : List String → List String → Prop where
  | only (kind : String) : NamesTypes [kind] ["has-" ++ kind, "is-" ++ kind ++ "-only"]
  | several {kinds : List String} : kinds.length ≠ 1 → NamesTypes kinds (kinds.map ("has-" ++ ·))

/-- The names are those for the types in ascending order that the nodes count as, front matter
apart. -/
def TypesNamed (children : List Node) (names : List String) : Prop :=
  ∃ kinds : List String, kinds.Pairwise (· < ·) ∧
    (∀ kind, kind ∈ kinds ↔ ∃ n ∈ children, n.is .yaml = false ∧ CountsAs n kind) ∧
    NamesTypes kinds names

theorem typesNamed_sectionTypes (children : List Node) :
    TypesNamed children (sectionTypes children) := by
  refine ⟨_, pairwise_distinct ((children.filter fun n => !n.is .yaml).map effectiveType), ?_, ?_⟩
  · intro kind
    simp only [mem_distinct, List.mem_map, List.mem_filter, effectiveType_eq_iff, and_assoc,
      Bool.not_eq_true']
  · rw [sectionTypes]
    generalize distinct ((children.filter fun n => !n.is .yaml).map effectiveType) = kinds
    -- Only a list of one type gets the other name.
    rcases kinds with _ | ⟨kind, _ | ⟨other, kinds⟩⟩
    · exact .several nofun
    · exact .only kind
    · have hmany : (kind :: other :: kinds).length ≠ 1 := by simp
      have hnames := NamesTypes.several hmany
      rwa [← List.append_nil (List.map _ _)] at hnames

/-! ## Parts of a section -/

/-- The text of a node is read as a mapping. -/
def HoldsMapping (n : Node) (d : Dict Json) : Prop :=
  ∃ text fields, n.value = some text ∧ Yaml.read? text = some (.obj fields) ∧ d = .ofList fields

theorem frontMatter_eq_some_iff {n : Node} {d : Dict Json} :
    (frontMatter n).1 = some d ↔ HoldsMapping n d := by
  rw [frontMatter]
  constructor
  · intro h
    split at h
    · cases h
    · next text htext =>
        -- What is read but is no mapping is ignored, as is what cannot be read.
        split at h
        · next fields hread => exact ⟨text, fields, htext, hread, (Option.some.inj h).symm⟩
        · cases h
        · cases h
  · rintro ⟨text, fields, htext, hread, rfl⟩
    simp only [htext, hread]

/-- A node of front matter that is read as a mapping. -/
structure HoldsFrontMatter (n : Node) (d : Dict Json) : Prop where
  yaml : n.is .yaml = true
  mapping : HoldsMapping n d

theorem frontMatterOf_eq_some_iff {o : Option Node} {d : Dict Json}
    (ho : ∀ n ∈ o, n.is .yaml = true) :
    (frontMatterOf o).1 = some d ↔ ∃ n ∈ o, HoldsFrontMatter n d := by
  cases o with
  | none => exact ⟨nofun, nofun⟩
  | some n =>
      rw [frontMatterOf, frontMatter_eq_some_iff]
      constructor
      · intro h
        exact ⟨n, rfl, ho n rfl, h⟩
      · rintro ⟨m, hm, -, h⟩
        obtain rfl : n = m := Option.some.inj hm
        exact h

/-- A paragraph that counts as one and has a text. -/
structure Introduces (n : Node) : Prop where
  paragraph : n.is .paragraph = true
  counts : CountsAs n Kind.paragraph.name
  text : Text.allBlank n.textContent = false

theorem introduces_iff (n : Node) :
    (isProse n && !Text.allBlank n.textContent) = true ↔ Introduces n := by
  rw [isProse, Bool.and_eq_true, Bool.and_eq_true, decide_eq_true_iff, effectiveType_eq_iff,
    Bool.not_eq_true']
  exact ⟨fun h => ⟨h.1.1, h.1.2, h.2⟩, fun h => ⟨⟨h.paragraph, h.counts⟩, h.text⟩⟩

/-- The introduction of a list of nodes: the text of the first paragraph that introduces. -/
def IntroText (ns : List Node) (t : String) : Prop :=
  ∃ before n after, ns = before ++ n :: after ∧ (∀ m ∈ before, ¬ Introduces m) ∧ Introduces n ∧
    t = Text.trim n.textContent

theorem introOf_eq_some_iff {ns : List Node} {t : String} :
    introOf ns = some t ↔ IntroText ns t := by
  rw [introOf_eq, Option.map_eq_some_iff]
  simp only [List.find?_eq_some_iff_append, introduces_iff, Bool.not_eq_true', ← Bool.not_eq_true]
  constructor
  · rintro ⟨n, ⟨hn, before, after, rfl, hbefore⟩, rfl⟩
    exact ⟨before, n, after, rfl, hbefore, hn, rfl⟩
  · rintro ⟨before, n, after, rfl, hbefore, hn, rfl⟩
    exact ⟨n, ⟨hn, before, after, rfl, hbefore⟩, rfl⟩

/-- The place of a list of nodes: from the start of the first to the end of the last. -/
def Spans (ns : List Node) (p : Mdast.Position) : Prop :=
  ∃ first ∈ ns.head?, ∃ last ∈ ns.getLast?, ∃ a ∈ first.position, ∃ b ∈ last.position,
    p = ⟨a.start, b.stop, none⟩

theorem spanOf_eq_some_iff {ns : List Node} {p : Mdast.Position} :
    spanOf ns = some p ↔ Spans ns p := by
  rw [spanOf]
  simp only [Option.bind_eq_bind, Option.bind_eq_some_iff, Option.some.injEq]
  constructor
  · rintro ⟨a, ⟨first, hfirst, ha⟩, b, ⟨last, hlast, hb⟩, rfl⟩
    exact ⟨first, hfirst, last, hlast, a, ha, b, hb, rfl⟩
  · rintro ⟨first, hfirst, last, hlast, a, ha, b, hb, rfl⟩
    exact ⟨a, ⟨first, hfirst, ha⟩, b, ⟨last, hlast, hb⟩, rfl⟩

/-! ## Sections and documents -/

/-- What is noted of a section, told from the nodes in it. -/
structure Section.Describes (s : Section) : Prop where
  types : TypesNamed s.children s.types
  position : ∀ p, s.position = some p ↔ Spans s.children p
  metadata : ∀ d, s.metadata = some d ↔
    ∃ n ∈ s.children.find? fun n => n.is .yaml, HoldsFrontMatter n d
  title : s.title = (s.children.find? fun n => n.is .heading).map Node.textContent
  intro : ∀ t, s.intro = some t ↔ IntroText s.children t
  image : s.image = ((Node.walkAll s.children).find? fun n => n.is .image).bind
    fun n => n.fields.url

theorem describes_sectionOf (children : List Node) : (sectionOf children).1.Describes where
  types := typesNamed_sectionTypes children
  position _ := spanOf_eq_some_iff
  metadata _ := frontMatterOf_eq_some_iff fun _ => List.find?_some (p := fun n : Node => n.is .yaml)
  title := rfl
  intro _ := introOf_eq_some_iff
  image := imageOf_eq children

/-- What is noted of a document: the sections it is cut into, each with what is noted of it, the
front matter at its start, and the first title, introduction and image of its sections. -/
structure Content.Notes (c : Content) (root : Node) : Prop extends c.Surveys root where
  described : ∀ s ∈ c.sections, s.Describes
  metadata : ∀ d, c.metadata = some d ↔ ∃ n ∈ root.children.head?, HoldsFrontMatter n d
  firstTitle : c.title = c.sections.findSome? Section.title
  firstIntro : c.intro = c.sections.findSome? Section.intro
  firstImage : c.image = c.sections.findSome? Section.image

/-- What is found out of a tree is what is to be noted of it. -/
theorem notes_withMetadata (c : Content) (root : Node) : (c.withMetadata root).1.Notes root where
  toSurveys := surveys_withMetadata c root
  described := by
    intro s hs
    obtain ⟨x, hx, rfl⟩ := List.mem_map.1 hs
    obtain ⟨g, -, rfl⟩ := List.mem_map.1 hx
    exact describes_sectionOf g
  metadata := by
    intro d
    have hfront := frontMatterOf_eq_some_iff (o := root.children.head?.filter fun n => n.is .yaml)
      (d := d) fun n hn => (Option.mem_filter_iff.1 hn).2
    refine hfront.trans ⟨?_, ?_⟩
    · rintro ⟨n, hn, hholds⟩
      exact ⟨n, (Option.mem_filter_iff.1 hn).1, hholds⟩
    · rintro ⟨n, hn, hholds⟩
      exact ⟨n, Option.mem_filter_iff.2 ⟨hn, hholds.yaml⟩, hholds⟩
  firstTitle := rfl
  firstIntro := rfl
  firstImage := rfl

end Pipeline

end PagePress
