import PagePress.Markdown.Tree
import PagePress.Proofs.Mdast.Node

/-!
# Drafts — what every event keeps of open nodes

Few things happen to a node while it is open.  A fact that none of them ends holds of all open
nodes at any time, whether the events are balanced or not.

* `Childless` lists the childless nodes that events add;
* `Lasting` is a fact that new nodes have and that nodes keep until they are closed;
* `Lasting.step`: every event keeps such a fact of all open nodes;
* `Lasting.treeOf`: the tree of any events is the closing of a node of which the fact holds.
-/

namespace PagePress

namespace Markdown

open Mdast (Node Kind Fields)

/-- The kinds and the fields of the childless nodes that events add. -/
inductive Childless : Kind → Fields → Prop where
  | valued {k : Kind} (s : String) : k ∈ [Kind.text, .inlineCode, .html] →
      Childless k { Fields.none with value := some s }
  | reference (label : String) : Childless .footnoteReference (labelled label)
  | mark {k : Kind} : k ∈ [Kind.break, .thematicBreak] → Childless k .none

/-- The fact `P` holds of the new nodes of allowed tags, and nodes keep it while they are open. -/
structure Lasting (index : LineIndex) (allowed : Tag → Prop) (P : Frame → Prop) : Prop where
  new {tag : Tag} (span : Span) : allowed tag → P (.new tag.node.1 tag.node.2 span)
  paragraph {f : Frame} : P f → P { f with hasParagraph := true }
  value {f : Frame} (s : String) : P f → P (f.appendValue s)
  task {f : Frame} (checked : Bool) : P f →
    P { f with fields := { f.fields with checked := some checked } }
  /-- A childless node is added, but no text behind a text. -/
  leaf {f : Frame} {k : Kind} {g : Fields} (span : Span) : P f → Childless k g →
    (k = .text → ∀ m ∈ f.earlier.head?, m.kind? ≠ some .text) →
    P (f.push (.mk k.name { g with position := some (index.position span) } []))
  /-- A text at the end grows. -/
  text {f : Frame} {n : Node} {earlier : List Node} (s : String) (stop : Nat) : P f →
    f.earlier = n :: earlier → n.kind? = some .text →
    P { f with earlier := Draft.extendText n s (index.point stop) :: earlier }
  /-- A node in it is closed. -/
  close {f g : Frame} {k : Kind} : P f → P g → g.kind = some k →
    P (f.push (g.finalize index k))
  /-- A group in it is closed. -/
  group {f g : Frame} : P f → P g → g.kind = none →
    P { f with earlier := g.earlier ++ f.earlier }

/-- The fact holds of all open nodes. -/
structure Draft.All (P : Frame → Prop) (d : Draft) : Prop where
  current : P d.current
  outer : ∀ f ∈ d.outer, P f

namespace Draft

/-- A task marker leaves all of an open node but the state of the task. -/
theorem map_checkFirst {α : Type} {g : Frame → α}
    (hg : ∀ f b, g { f with fields := { f.fields with checked := some b } } = g f) (checked : Bool)
    (fs : List Frame) : (checkFirst checked fs).map g = fs.map g := by
  induction fs with
  | nil => rfl
  | cons f fs ih =>
      rw [checkFirst]
      split
      · rw [List.map_cons, List.map_cons, hg]
      · rw [List.map_cons, List.map_cons, ih]

theorem map_check {α : Type} {g : Frame → α}
    (hg : ∀ f b, g { f with fields := { f.fields with checked := some b } } = g f) (checked : Bool)
    (d : Draft) :
    g (d.check checked).current = g d.current ∧ (d.check checked).outer.map g = d.outer.map g := by
  have hmap := map_checkFirst hg checked (d.current :: d.outer)
  unfold check
  split
  · exact ⟨rfl, rfl⟩
  · rename_i f fs hfs
    rw [hfs, List.map_cons, List.map_cons] at hmap
    exact List.cons.inj hmap

/-- The node around a new one stays as it is, but for the mark that a paragraph stands in it. -/
theorem exists_openTag {α : Type} {g : Frame → α}
    (hg : ∀ f, g { f with hasParagraph := true } = g f) (d : Draft) (tag : Tag) (span : Span) :
    ∃ parent, d.openTag tag span = ⟨.new tag.node.1 tag.node.2 span, parent :: d.outer⟩ ∧
      g parent = g d.current := by
  refine ⟨_, rfl, ?_⟩
  split
  · exact hg d.current
  · rfl

end Draft

namespace Lasting

variable {index : LineIndex} {allowed : Tag → Prop} {P : Frame → Prop} {d : Draft}

section

variable (h : Lasting index allowed P)

include h

/-! ## Single changes -/

theorem openTag (hd : d.All P) {tag : Tag} (htag : allowed tag) (span : Span) :
    (d.openTag tag span).All P := by
  refine ⟨h.new span htag, ?_⟩
  unfold Draft.openTag
  dsimp only
  rw [List.forall_mem_cons]
  refine ⟨?_, hd.outer⟩
  split
  · exact h.paragraph hd.current
  · exact hd.current

/-- The end of a node moves it, or what a group holds, into the node around it. -/
theorem closeLast (hd : d.All P) : (d.close index).All P := by
  obtain ⟨current, outer⟩ := d
  unfold Draft.close
  cases outer with
  | nil => exact hd
  | cons parent outer =>
      obtain ⟨hparent, houter⟩ := List.forall_mem_cons.1 hd.outer
      dsimp only
      split
      · rename_i hnone
        exact ⟨h.group hparent hd.current hnone, houter⟩
      · rename_i k hk
        exact ⟨h.close hparent hd.current hk, houter⟩

theorem addLeaf (hd : d.All P) {k : Kind} {g : Fields} (hleaf : Childless k g) (span : Span)
    (hapart : k = .text → ∀ m ∈ d.current.earlier.head?, m.kind? ≠ some .text) :
    (d.leaf index k g span).All P :=
  ⟨h.leaf span hd.current hleaf hapart, hd.outer⟩

theorem addText (hd : d.All P) (s : String) (span : Span) : (d.addText index s span).All P := by
  have hleaf : Childless .text { Fields.none with value := some s } := .valued s (by simp)
  -- A literal node takes the text, a text before it grows, and else there is a new node.
  unfold Draft.addText
  split
  · exact ⟨h.value s hd.current, hd.outer⟩
  · split
    · rename_i n earlier hearlier
      split
      · rename_i htext
        exact ⟨h.text s span.stop hd.current hearlier (Node.is_iff.1 htext), hd.outer⟩
      · rename_i hother
        refine h.addLeaf hd hleaf span ?_
        intro _ m hm htext
        obtain rfl : n = m := by simpa [hearlier] using hm
        exact hother (Node.is_iff.2 htext)
    · rename_i hearlier
      exact h.addLeaf hd hleaf span (by simp [hearlier])

theorem checkFirst (checked : Bool) {fs : List Frame} (hfs : ∀ f ∈ fs, P f) :
    ∀ f ∈ Draft.checkFirst checked fs, P f := by
  induction fs with
  | nil => simp [Draft.checkFirst]
  | cons f fs ih =>
      rw [List.forall_mem_cons] at hfs
      rw [Draft.checkFirst]
      split
      · exact List.forall_mem_cons.2 ⟨h.task checked hfs.1, hfs.2⟩
      · exact List.forall_mem_cons.2 ⟨hfs.1, ih hfs.2⟩

theorem check (hd : d.All P) (checked : Bool) : (d.check checked).All P := by
  have hframes := h.checkFirst checked (List.forall_mem_cons.2 ⟨hd.current, hd.outer⟩)
  unfold Draft.check
  split
  · exact hd
  · rename_i f fs hfs
    rw [hfs, List.forall_mem_cons] at hframes
    exact ⟨hframes.1, hframes.2⟩

/-! ## Events -/

/-- One event keeps the fact of all open nodes. -/
theorem step (hd : d.All P) {e : Located} (he : ∀ tag, e.event = .open tag → allowed tag) :
    (d.step index e).All P := by
  obtain ⟨event, span⟩ := e
  unfold Draft.step
  dsimp only at he ⊢
  cases event with
  | «open» tag => exact h.openTag hd (he tag rfl) span
  | close => exact h.closeLast hd
  | text s => exact h.addText hd s span
  | inlineMath s => exact h.addText hd s span
  | displayMath s => exact h.addText hd s span
  | code s => exact h.addLeaf hd (.valued s (by simp)) span (by simp)
  | html s =>
      dsimp only
      split
      · exact ⟨h.value s hd.current, hd.outer⟩
      · exact h.addLeaf hd (.valued s (by simp)) span (by simp)
  | inlineHtml s => exact h.addLeaf hd (.valued s (by simp)) span (by simp)
  | footnoteReference label => exact h.addLeaf hd (.reference label) span (by simp)
  | softBreak => exact h.addText hd "\n" span
  | hardBreak => exact h.addLeaf hd (.mark (by simp)) span (by simp)
  | rule => exact h.addLeaf hd (.mark (by simp)) span (by simp)
  | task checked => exact h.check hd checked

theorem foldl_step (hd : d.All P) {events : List Located}
    (hevents : ∀ e ∈ events, ∀ tag, e.event = .open tag → allowed tag) :
    (events.foldl (Draft.step index) d).All P :=
  List.foldlRecOn events _ hd fun _ hd e he => h.step hd (hevents e he)

/-- What is open at the end is closed from the inside out. -/
theorem finishOuter {outer : List Frame} :
    ∀ {f : Frame}, P f → (∀ g ∈ outer, P g) → P (Draft.finishOuter index outer f) := by
  induction outer with
  | nil =>
      intro f hf _
      exact hf
  | cons parent outer ih =>
      intro f hf houter
      obtain ⟨hparent, hrest⟩ := List.forall_mem_cons.1 houter
      rw [Draft.finishOuter]
      split
      · rename_i hnone
        exact ih (h.group hparent hf hnone) hrest
      · rename_i k hk
        exact ih (h.close hparent hf hk) hrest

end

/-- The tree of any events is the closing of a node of which the fact holds. -/
theorem treeOf {text : String} (h : Lasting (LineIndex.ofText text) allowed P)
    (hstart : P (Draft.start text).current) {events : List Located}
    (hevents : ∀ e ∈ events, ∀ tag, e.event = .open tag → allowed tag) :
    ∃ f, P f ∧ treeOf text events = f.finalize (LineIndex.ofText text) .root := by
  have hd : (events.foldl (Draft.step (LineIndex.ofText text)) (.start text)).All P :=
    h.foldl_step ⟨hstart, by simp [Draft.start]⟩ hevents
  exact ⟨_, h.finishOuter hd.current hd.outer, rfl⟩

end Lasting

end Markdown

end PagePress
