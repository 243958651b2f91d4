import PagePress.Markdown.Reader
import PagePress.Proofs.Markdown.Draft

/-!
# Sound trees — what a markdown document is read to

* `Frame.Sound`: the fields of an open node conform, and so do the trees that are closed in it;
* `sound_lasting`: an open node stays sound, whatever happens to it;
* `treeOf_sound`: the tree of any events is sound, and so is the tree of any text.
-/

namespace PagePress

namespace Markdown

open Mdast (Node Kind Fields)

/-! ## Positions -/

theorem point_conforms (index : LineIndex) (offset : Nat) : (index.point offset).Conforms :=
  ⟨Nat.le_add_left .., Nat.le_add_left ..⟩

theorem position_conforms (index : LineIndex) (span : Span) : (index.position span).Conforms :=
  ⟨point_conforms .., point_conforms ..⟩

/-- A position in a text may be put into sound fields. -/
theorem sound_at {f : Fields} (h : f.Sound) (index : LineIndex) (span : Span) :
    Fields.Sound { f with position := some (index.position span) } :=
  ⟨h.depth, by simpa using position_conforms index span, h.extra⟩

/-! ## Fields of new nodes -/

theorem sound_valued (s : String) : Fields.Sound { Fields.none with value := some s } :=
  ⟨Fields.sound_none.depth, Fields.sound_none.position, rfl⟩

theorem sound_labelled (label : String) : (labelled label).Sound :=
  ⟨Fields.sound_none.depth, Fields.sound_none.position, rfl⟩

theorem sound_targeted (url title : String) : (targeted url title).Sound :=
  ⟨Fields.sound_none.depth, Fields.sound_none.position, rfl⟩

/-- The fields of a tag's node are sound. -/
theorem sound_tag (tag : Tag) : tag.node.2.Sound := by
  cases tag with
  | heading level =>
      refine ⟨?_, Fields.sound_none.position, rfl⟩
      intro d hd
      obtain rfl : (level.val + 1).toUInt8 = d := by simpa [Tag.node] using hd
      have hlevel := level.isLt
      have hnat : (level.val + 1).toUInt8.toNat = level.val + 1 := by
        rw [Nat.toUInt8_eq, UInt8.toNat_ofNat']
        omega
      omega
  | code info =>
      cases info with
      | none => exact Fields.sound_none
      | some info => exact ⟨Fields.sound_none.depth, Fields.sound_none.position, rfl⟩
  | list first => exact ⟨Fields.sound_none.depth, Fields.sound_none.position, rfl⟩
  | table align => exact ⟨Fields.sound_none.depth, Fields.sound_none.position, rfl⟩
  | footnoteDefinition label => exact sound_labelled label
  | link email url title => exact sound_targeted _ title
  | image url title => exact sound_targeted url title
  | _ => exact Fields.sound_none

/-! ## Phrasing -/

theorem spanOf_conforms {first last : Option Node} (hfirst : ∀ n ∈ first, n.Sound)
    (hlast : ∀ n ∈ last, n.Sound) : ∀ x ∈ spanOf first last, x.Conforms := by
  intro x hx
  simp only [spanOf, Option.bind_eq_bind, Option.mem_def, Option.bind_eq_some_iff,
    Option.some.injEq] at hx
  obtain ⟨p, ⟨n, hn, hp⟩, q, ⟨m, hm, hq⟩, rfl⟩ := hx
  exact ⟨((hfirst n hn).fields.position p hp).1, ((hlast m hm).fields.position q hq).2⟩

theorem paragraphOf_sound {run : List Node} (h : ∀ n ∈ run, n.Sound) :
    ∀ n ∈ paragraphOf run, n.Sound := by
  unfold paragraphOf
  split
  · simp
  · rw [List.forall_mem_singleton]
    refine .mk ⟨Fields.sound_none.depth, ?_, rfl⟩ h
    exact spanOf_conforms (fun n hn => h n (List.mem_of_mem_head? hn))
      (fun n hn => h n (List.mem_of_mem_getLast? hn))

theorem wrapFrom_sound {ns : List Node} :
    ∀ {run : List Node}, (∀ n ∈ run, n.Sound) → (∀ n ∈ ns, n.Sound) →
      ∀ n ∈ wrapFrom run ns, n.Sound := by
  induction ns with
  | nil =>
      intro run hrun _
      exact paragraphOf_sound (by simpa using hrun)
  | cons n ns ih =>
      intro run hrun h
      rw [List.forall_mem_cons] at h
      rw [wrapFrom]
      split
      · exact ih (List.forall_mem_cons.2 ⟨h.1, hrun⟩) h.2
      · rw [List.forall_mem_append, List.forall_mem_cons]
        exact ⟨paragraphOf_sound (by simpa using hrun), h.1, ih (by simp) h.2⟩

/-! ## Frames -/

/-- An open node whose fields conform and whose closed children are sound. -/
structure Frame.Sound (f : Frame) : Prop where
  fields : f.fields.Sound
  earlier : ∀ n ∈ f.earlier, n.Sound

namespace Frame

variable {f : Frame}

theorem Sound.push (h : f.Sound) {n : Node} (hn : n.Sound) : (f.push n).Sound :=
  ⟨h.fields, List.forall_mem_cons.2 ⟨hn, h.earlier⟩⟩

/-- Settling a node keeps its level and its children sound. -/
theorem Sound.settle (h : f.Sound) (k : Kind) :
    (f.settle k).1.Sound ∧ ∀ n ∈ (f.settle k).2, n.Sound := by
  have hchildren : ∀ n ∈ f.earlier.reverse, n.Sound := by simpa using h.earlier
  have hfields : ∀ g : Fields, g.depth = f.fields.depth → g.position = f.fields.position →
      g.extra = f.fields.extra → g.Sound := by
    intro g hdepth hposition hextra
    exact ⟨hdepth ▸ h.fields.depth, hposition ▸ h.fields.position, hextra.trans h.fields.extra⟩
  -- Only the children of items change, and only the fields of images.
  unfold Frame.settle
  cases k with
  | listItem =>
      refine ⟨hfields _ rfl rfl rfl, ?_⟩
      dsimp only
      split
      · exact hchildren
      · exact wrapFrom_sound (by simp) hchildren
  | image => exact ⟨hfields _ rfl rfl rfl, by simp⟩
  | _ => exact ⟨hfields _ rfl rfl rfl, hchildren⟩

/-- A closed node is sound. -/
theorem Sound.finalize (h : f.Sound) (index : LineIndex) (k : Kind) :
    (f.finalize index k).Sound := by
  obtain ⟨hfields, hchildren⟩ := h.settle k
  exact .mk (sound_at hfields index f.span) hchildren

end Frame

/-! ## Trees -/

theorem Childless.sound {k : Kind} {g : Fields} (h : Childless k g) : g.Sound := by
  cases h with
  | valued s => exact sound_valued s
  | reference label => exact sound_labelled label
  | mark => exact Fields.sound_none

theorem sound_extendText {n : Node} (h : n.Sound) (s : String) (index : LineIndex) (stop : Nat) :
    (Draft.extendText n s (index.point stop)).Sound := by
  refine h.mapFields ⟨h.fields.depth, ?_, h.fields.extra⟩
  intro x hx
  obtain ⟨y, hy, rfl⟩ := Option.map_eq_some_iff.1 hx
  exact ⟨(h.fields.position y hy).1, point_conforms index stop⟩

/-- Open nodes are sound, whatever happens to them. -/
theorem sound_lasting (index : LineIndex) : Lasting index (fun _ => True) Frame.Sound where
  new _ _ := ⟨sound_tag _, by simp [Frame.new]⟩
  paragraph hf := ⟨hf.fields, hf.earlier⟩
  value _ hf := ⟨⟨hf.fields.depth, hf.fields.position, hf.fields.extra⟩, hf.earlier⟩
  task _ hf := ⟨⟨hf.fields.depth, hf.fields.position, hf.fields.extra⟩, hf.earlier⟩
  leaf span hf hleaf _ := hf.push (.mk (sound_at hleaf.sound index span) (by simp))
  text s stop hf hearlier _ := by
    -- The position of the text grows to the end of the new one.
    have hnodes := hf.earlier
    rw [hearlier, List.forall_mem_cons] at hnodes
    have hgrown := sound_extendText hnodes.1 s index stop
    exact ⟨hf.fields, List.forall_mem_cons.2 ⟨hgrown, hnodes.2⟩⟩
  close hf hg _ := hf.push (hg.finalize index _)
  group hf hg _ := ⟨hf.fields, List.forall_mem_append.2 ⟨hg.earlier, hf.earlier⟩⟩

/-- The tree of any events is sound. -/
theorem treeOf_sound (text : String) (events : List Located) : (treeOf text events).Sound := by
  have hstart : (Draft.start text).current.Sound :=
    ⟨Fields.sound_none, by simp [Draft.start, Frame.new]⟩
  obtain ⟨f, hf, htree⟩ := (sound_lasting _).treeOf hstart fun _ _ _ _ => trivial
  rw [htree]
  exact hf.finalize _ .root

/-- The tree of any text is sound. -/
theorem parse_sound (text : String) : (parse text).Sound := treeOf_sound text (events text)

end Markdown

end PagePress
