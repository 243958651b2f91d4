import Mathlib.Data.List.Chain
import PagePress.Proofs.Markdown.Tree

/-!
# Regular trees — the shape of what any events are read to

Events need not be balanced: a tag may stay open, and there may be more ends than tags.

* `Regular` is what can be asked of a node and of its children;
* `Frame.Regular`: an open node could be closed at any time, since no two texts stand side by side
  in it;
* `Frame.Regular.finalize`: closing a node makes it regular, where items and lists are settled;
* `regular_lasting`: open nodes stay so, whatever happens to them;
* `treeOf_regular`: every node of the tree of any events is regular.

A group is left out: what it holds moves next to texts that stand around it.
-/

namespace PagePress

namespace Markdown

open Mdast (Node Kind Fields)

/-! ## Regular nodes -/

/-- Not both nodes are texts. -/
def Apart (a b : Node) : Prop := ¬ (a.kind? = some .text ∧ b.kind? = some .text)

/-- What holds of every node of a tree that is read from events. -/
structure Regular (n : Node) : Prop where
  kind : n.kind?.isSome = true
  position : n.position.isSome = true
  heading : n.kind? = some .heading → ∃ d ∈ n.fields.depth, 1 ≤ d.toNat ∧ d.toNat ≤ 6
  literal : n.kind? ∈ [some .code, some .yaml, some .html] → n.value.isSome = true
  image : n.kind? = some .image → n.children = [] ∧ n.fields.alt ≠ some ""
  /-- No two texts stand side by side. -/
  texts : n.children.IsChain Apart
  /-- A tight item has no phrasing of its own. -/
  item : n.kind? = some .listItem → ∃ b, n.fields.spread = some b ∧
    (b = false → ∀ c ∈ n.children, isPhrasing c = false)
  /-- A list is loose exactly if one of its items, the nodes directly in it, is. -/
  list : n.kind? = some .list → ∃ b, n.fields.spread = some b ∧
    (b = true ↔ ∃ c ∈ n.children, c.fields.spread = some true)
  /-- Only lists and items are loose or tight. -/
  spread : n.fields.spread.isSome = true → n.kind? = some .list ∨ n.kind? = some .listItem

/-- All nodes of a tree are regular. -/
def RegularTree (n : Node) : Prop := ∀ m ∈ n.walk, Regular m

variable {n : Node}

@[simp]
theorem kind?_mk (k : Kind) (g : Fields) (cs : List Node) :
    (Node.mk k.name g cs).kind? = some k := by
  rw [Node.kind?, Node.type, Kind.ofName?_name]

theorem Apart.of_left {a b : Node} (h : a.kind? ≠ some .text) : Apart a b := fun hboth => h hboth.1

theorem Apart.of_right {a b : Node} (h : b.kind? ≠ some .text) : Apart a b := fun hboth => h hboth.2

theorem Apart.symm {a b : Node} (h : Apart a b) : Apart b a := fun hboth => h hboth.symm

theorem isChain_apart_reverse {ns : List Node} : ns.reverse.IsChain Apart ↔ ns.IsChain Apart := by
  rw [List.isChain_reverse]
  exact List.IsChain.iff fun a b => ⟨Apart.symm, Apart.symm⟩

/-- Nodes none of which is a text stand apart. -/
theorem isChain_apart_of_forall {ns : List Node} (h : ∀ n ∈ ns, n.kind? ≠ some .text) :
    ns.IsChain Apart := by
  induction ns with
  | nil => exact .nil
  | cons n ns ih =>
      rw [List.forall_mem_cons] at h
      exact (ih h.2).cons fun m _ => .of_left h.1

theorem regular_mk {k : Kind} {g : Fields} {cs : List Node} (hposition : g.position.isSome = true)
    (hheading : k = .heading → ∃ d ∈ g.depth, 1 ≤ d.toNat ∧ d.toNat ≤ 6)
    (hliteral : k ∈ [.code, .yaml, .html] → g.value.isSome = true)
    (himage : k = .image → cs = [] ∧ g.alt ≠ some "") (htexts : cs.IsChain Apart)
    (hitem : k = .listItem → ∃ b, g.spread = some b ∧
      (b = false → ∀ c ∈ cs, isPhrasing c = false))
    (hlist : k = .list → ∃ b, g.spread = some b ∧
      (b = true ↔ ∃ c ∈ cs, c.fields.spread = some true))
    (hspread : g.spread.isSome = true → k = .list ∨ k = .listItem) :
    Regular (.mk k.name g cs) := by
  have hkind {j : Kind} (h : (Node.mk k.name g cs).kind? = some j) : k = j :=
    Option.some.inj ((kind?_mk k g cs).symm.trans h)
  constructor
  case kind => simp
  case position => exact hposition
  case heading => exact fun h => hheading (hkind h)
  case literal =>
    intro h
    exact hliteral (by simpa using h)
  case image => exact fun h => himage (hkind h)
  case texts => exact htexts
  case item => exact fun h => hitem (hkind h)
  case list => exact fun h => hlist (hkind h)
  case spread =>
    intro h
    rw [kind?_mk, Option.some.injEq, Option.some.injEq]
    exact hspread h

theorem RegularTree.regular (h : RegularTree n) : Regular n := h n n.mem_walk_self

theorem RegularTree.mk {t : String} {g : Fields} {cs : List Node} (h : Regular (.mk t g cs))
    (hcs : ∀ c ∈ cs, RegularTree c) : RegularTree (.mk t g cs) := by
  intro m hm
  rw [Node.walk] at hm
  rcases List.mem_cons.1 hm with rfl | hm
  · exact h
  · obtain ⟨c, hc, hm⟩ := Node.mem_walkAll.1 hm
    exact hcs c hc m hm

/-- A node without children, of a kind that asks for nothing but a value. -/
theorem regularTree_leaf {k : Kind} {g : Fields}
    (hk : k ∉ [Kind.heading, .code, .yaml, .image, .listItem, .list])
    (hvalue : k = .html → g.value.isSome = true) (hspread : g.spread = none)
    (hposition : g.position.isSome = true) : RegularTree (.mk k.name g []) := by
  refine .mk (regular_mk hposition ?_ ?_ ?_ .nil ?_ ?_ (by simp [hspread])) (by simp)
  · rintro rfl
    simp at hk
  · intro hliteral
    rcases List.mem_cons.1 hliteral with rfl | hliteral
    · simp at hk
    · rcases List.mem_cons.1 hliteral with rfl | hliteral
      · simp at hk
      · exact hvalue (List.mem_singleton.1 hliteral)
  · rintro rfl
    simp at hk
  · rintro rfl
    simp at hk
  · rintro rfl
    simp at hk

/-! ## Phrasing -/

theorem kind?_ne_text_of_isPhrasing (h : isPhrasing n = false) : n.kind? ≠ some .text := by
  intro htext
  simp [isPhrasing, htext] at h

theorem spanOf_isSome {run : List Node} (hne : run ≠ [])
    (h : ∀ n ∈ run, n.position.isSome = true) :
    (spanOf run.head? run.getLast?).isSome = true := by
  obtain ⟨p, hp⟩ := Option.isSome_iff_exists.1 (h _ (List.head_mem hne))
  obtain ⟨q, hq⟩ := Option.isSome_iff_exists.1 (h _ (List.getLast_mem hne))
  simp [spanOf, List.head?_eq_some_head hne, List.getLast?_eq_some_getLast hne, hp, hq]

/-- The paragraph of a run is regular, and it is no phrasing. -/
theorem regular_paragraphOf {run : List Node} (h : ∀ n ∈ run, RegularTree n)
    (htexts : run.IsChain Apart) :
    ∀ n ∈ paragraphOf run, RegularTree n ∧ isPhrasing n = false := by
  unfold paragraphOf
  split
  · simp
  · rename_i hne
    rw [List.forall_mem_singleton]
    refine ⟨.mk ?_ h, by simp [isPhrasing]⟩
    have hposition := spanOf_isSome (by simpa using hne) fun n hn => (h n hn).regular.position
    refine regular_mk hposition ?_ ?_ ?_ htexts ?_ ?_ ?_ <;> simp [Fields.none]

/-- Wrapping keeps trees regular, and it leaves no phrasing.  Texts in a run stand apart since the
run is a part of the list that is wrapped. -/
theorem regular_wrapFrom {ns : List Node} :
    ∀ {run : List Node}, (∀ n ∈ run, RegularTree n) → (∀ n ∈ ns, RegularTree n) →
      (run.reverse ++ ns).IsChain Apart →
      ∀ n ∈ wrapFrom run ns, RegularTree n ∧ isPhrasing n = false := by
  induction ns with
  | nil =>
      intro run hrun _ htexts
      exact regular_paragraphOf (by simpa using hrun) (by simpa using htexts)
  | cons n ns ih =>
      intro run hrun h htexts
      obtain ⟨hn, hns⟩ := List.forall_mem_cons.1 h
      rw [wrapFrom]
      split
      · exact ih (List.forall_mem_cons.2 ⟨hn, hrun⟩) hns (by simpa using htexts)
      · rename_i hphrasing
        have hparagraph := regular_paragraphOf (by simpa using hrun) htexts.left_of_append
        rw [List.forall_mem_append, List.forall_mem_cons]
        refine ⟨hparagraph, ⟨hn, by simpa using hphrasing⟩, ih (by simp) hns ?_⟩
        exact htexts.right_of_append.tail

theorem nonEmpty?_ne_some_empty (s : String) : nonEmpty? s ≠ some "" := by
  unfold nonEmpty?
  split
  · simp
  · rename_i h
    simpa using h

/-! ## Frames -/

/-- An open node that would be regular if it were closed. -/
structure Frame.Regular (f : Frame) : Prop where
  /-- It stands for a node, and not for a text. -/
  kind : ∃ k, f.kind = some k ∧ k ≠ .text
  heading : f.kind = some .heading → ∃ d ∈ f.fields.depth, 1 ≤ d.toNat ∧ d.toNat ≤ 6
  spread : f.fields.spread = none
  earlier : ∀ n ∈ f.earlier, RegularTree n
  texts : f.earlier.IsChain Apart

namespace Frame

variable {f : Frame}

/-- A node may be added unless it is a text behind a text. -/
theorem Regular.push (h : f.Regular) (hn : RegularTree n)
    (hapart : ∀ m ∈ f.earlier.head?, Apart n m) :
    (f.push n).Regular :=
  ⟨h.kind, h.heading, h.spread, List.forall_mem_cons.2 ⟨hn, h.earlier⟩, h.texts.cons hapart⟩

/-- A closed node is regular.  Lists and items are settled, and so are images and literal nodes;
other nodes stay as they were opened. -/
theorem Regular.finalize (h : f.Regular) (index : LineIndex) {k : Kind}
    (hk : f.kind = some k ∨ k = .root) : RegularTree (f.finalize index k) := by
  have hchildren : ∀ n ∈ f.earlier.reverse, RegularTree n := by simpa using h.earlier
  have htexts : f.earlier.reverse.IsChain Apart := isChain_apart_reverse.2 h.texts
  have hheading : k = .heading → ∃ d ∈ f.fields.depth, 1 ≤ d.toNat ∧ d.toNat ≤ 6 := by
    rintro rfl
    exact h.heading (hk.resolve_right (by simp))
  cases k with
  | listItem =>
      -- A tight item wraps its phrasing, and a loose one keeps its children.
      have hsettled : ∀ n ∈ (f.settle .listItem).2, RegularTree n ∧
          (f.hasParagraph = false → isPhrasing n = false) := by
        intro n hn
        cases hparagraph : f.hasParagraph with
        | true =>
            simp only [Frame.settle, hparagraph, if_true] at hn
            exact ⟨hchildren n hn, by simp⟩
        | false =>
            simp only [Frame.settle, hparagraph, Bool.false_eq_true, if_false] at hn
            have hwrapped := regular_wrapFrom (by simp) hchildren (by simpa using htexts) n hn
            exact ⟨hwrapped.1, fun _ => hwrapped.2⟩
      have hapart : (f.settle .listItem).2.IsChain Apart := by
        cases hparagraph : f.hasParagraph with
        | true => simpa [Frame.settle, hparagraph] using htexts
        | false =>
            exact isChain_apart_of_forall fun n hn =>
              kind?_ne_text_of_isPhrasing ((hsettled n hn).2 hparagraph)
      refine .mk ?_ fun n hn => (hsettled n hn).1
      refine regular_mk rfl (by simp) (by simp) (by simp) hapart (fun _ => ?_) (by simp) (by simp)
      exact ⟨f.hasParagraph, rfl, fun htight n hn => (hsettled n hn).2 htight⟩
  | list =>
      refine .mk ?_ hchildren
      refine regular_mk rfl (by simp) (by simp) (by simp) htexts (by simp) (fun _ => ?_) (by simp)
      exact ⟨_, rfl, by simp [List.any_eq_true]⟩
  | image =>
      -- What stood in an image is its text only.
      refine .mk ?_ (by simp)
      refine regular_mk rfl (by simp) (by simp) (fun _ => ⟨rfl, ?_⟩) .nil (by simp) (by simp) ?_
      · exact nonEmpty?_ne_some_empty _
      · simp [h.spread]
  | code | html | yaml =>
      refine .mk ?_ hchildren
      refine regular_mk rfl (by simp) (fun _ => rfl) (by simp) htexts (by simp) (by simp) ?_
      simp [h.spread]
  | _ =>
      refine .mk ?_ hchildren
      refine regular_mk rfl hheading (by simp) (by simp) htexts (by simp) (by simp) ?_
      simp [h.spread]

end Frame

/-! ## Tags -/

/-- A tag that is no group opens a node that can be closed at once. -/
theorem regular_new {tag : Tag} (htag : tag ≠ .group) (span : Span) :
    (Frame.new tag.node.1 tag.node.2 span).Regular := by
  have hkind : ∃ k, tag.node.1 = some k ∧ k ≠ .text := by
    cases tag with
    | code info => cases info <;> exact ⟨.code, rfl, by simp⟩
    | group => exact absurd rfl htag
    | _ => exact ⟨_, rfl, by simp⟩
  have hspread : tag.node.2.spread = none := by
    cases tag with
    | code info => cases info <;> rfl
    | _ => rfl
  refine ⟨hkind, ?_, hspread, by simp [Frame.new], .nil⟩
  intro hheading
  -- Only the tag of a heading opens one, and it has a level.
  cases tag with
  | heading level =>
      exact ⟨(level.val + 1).toUInt8, rfl, (sound_tag (.heading level)).depth _ rfl⟩
  | code info => cases info <;> cases hheading
  | _ => cases hheading

/-! ## Trees -/

/-- A childless node that an event adds is regular. -/
theorem Childless.regularTree {k : Kind} {g : Fields} (h : Childless k g) (p : Mdast.Position) :
    RegularTree (.mk k.name { g with position := some p } []) := by
  cases h with
  | valued s hk =>
      refine regularTree_leaf ?_ (fun _ => rfl) rfl rfl
      rintro hother
      simp only [List.mem_cons, List.not_mem_nil, or_false] at hk hother
      rcases hk with rfl | rfl | rfl <;> simp at hother
  | reference label => exact regularTree_leaf (by simp) (by simp) rfl rfl
  | mark hk =>
      simp only [List.mem_cons, List.not_mem_nil, or_false] at hk
      rcases hk with rfl | rfl
      · exact regularTree_leaf (by simp) (by simp) rfl rfl
      · exact regularTree_leaf (by simp) (by simp) rfl rfl

/-- A text that grows stays a regular text. -/
theorem regularTree_extendText (h : RegularTree n) (htext : n.kind? = some .text) (s : String)
    (stop : Mdast.Point) : RegularTree (Draft.extendText n s stop) := by
  obtain ⟨t, g, cs⟩ := n
  have hregular := h.regular
  have hkind : (Draft.extendText (.mk t g cs) s stop).kind? = some .text := htext
  have hposition : (Draft.extendText (.mk t g cs) s stop).position.isSome = true :=
    Option.isSome_map.trans hregular.position
  refine .mk ⟨hregular.kind, hposition, ?_, fun _ => rfl, ?_, hregular.texts, ?_, ?_,
    hregular.spread⟩ ?_
  · intro hheading
    cases hheading.symm.trans hkind
  · intro himage
    cases himage.symm.trans hkind
  · intro hitem
    cases hitem.symm.trans hkind
  · intro hlist
    cases hlist.symm.trans hkind
  · intro c hc m hm
    have hbelow : m ∈ (Node.mk t g cs).walk := by
      rw [Node.walk]
      exact List.mem_cons_of_mem _ (Node.mem_walkAll.2 ⟨c, hc, hm⟩)
    exact h m hbelow

/-- Open nodes are regular, whatever happens to them.  There are no groups among them, whose nodes
would move next to texts around them. -/
theorem regular_lasting (index : LineIndex) : Lasting index (· ≠ .group) Frame.Regular where
  new span htag := regular_new htag span
  paragraph hf := ⟨hf.kind, hf.heading, hf.spread, hf.earlier, hf.texts⟩
  value _ hf := ⟨hf.kind, hf.heading, hf.spread, hf.earlier, hf.texts⟩
  task _ hf := ⟨hf.kind, hf.heading, hf.spread, hf.earlier, hf.texts⟩
  leaf {f k g} span hf hleaf hapart := by
    refine hf.push (hleaf.regularTree _) ?_
    intro m hm
    by_cases htext : k = .text
    · exact .of_right (hapart htext m hm)
    · exact .of_left (by simpa using htext)
  text s stop hf hearlier htext := by
    have hnodes := hf.earlier
    have htexts := hf.texts
    rw [hearlier] at hnodes htexts
    obtain ⟨hn, hrest⟩ := List.forall_mem_cons.1 hnodes
    -- A text stands where a text stood, so what is before it is no text.
    obtain ⟨hbefore, hchain⟩ := List.isChain_cons.1 htexts
    refine ⟨hf.kind, hf.heading, hf.spread, ?_, hchain.cons hbefore⟩
    exact List.forall_mem_cons.2 ⟨regularTree_extendText hn htext s _, hrest⟩
  close {f g k} hf hg hk := by
    -- A closed node is no text, so it may stand behind anything.
    refine hf.push (hg.finalize index (.inl hk)) fun _ _ => .of_left ?_
    obtain ⟨j, hj, htext⟩ := hg.kind
    obtain rfl : j = k := Option.some.inj (hj.symm.trans hk)
    simpa [Frame.finalize] using htext
  group _ hg hnone := by
    obtain ⟨k, hk, -⟩ := hg.kind
    cases hnone.symm.trans hk

theorem regular_start (text : String) : (Draft.start text).current.Regular :=
  ⟨⟨.root, rfl, by simp⟩, by simp [Draft.start, Frame.new], rfl, by simp [Draft.start, Frame.new],
    .nil⟩

/-- The tree of any events without groups is a root, and all of its nodes are regular, whether the
events are balanced or not. -/
theorem treeOf_regular (text : String) {events : List Located}
    (h : ∀ e ∈ events, e.event ≠ .open .group) :
    (treeOf text events).is .root = true ∧ ∀ n ∈ (treeOf text events).walk, Regular n := by
  have htags : ∀ e ∈ events, ∀ tag, e.event = .open tag → tag ≠ .group := by
    intro e he tag hopen htag
    exact h e he (hopen.trans (congrArg Event.open htag))
  obtain ⟨f, hf, htree⟩ := (regular_lasting _).treeOf (regular_start text) htags
  rw [htree]
  refine ⟨?_, hf.finalize _ (.inr rfl)⟩
  simp [Frame.finalize, Node.is, Node.type]

/-- An end without a start, an item without a paragraph, an image, an item with a paragraph, and
three tags that stay open. -/
def unbalanced : List Located :=
  [.close, .open (.list none), .open .item, .text "a", .softBreak, .task true,
    .open (.image "i.png" ""), .close, .rule, .text "b", .close, .open .item, .open .paragraph,
    .inlineMath "c", .text "d", .close, .open (.code none), .text "e"].map fun e => ⟨e, ⟨0, 1⟩⟩

theorem treeOf_regular_unbalanced :
    (∀ e ∈ unbalanced, e.event ≠ .open .group) ∧ (treeOf "abcde" unbalanced).is .root = true ∧
      ∀ n ∈ (treeOf "abcde" unbalanced).walk, Regular n :=
  ⟨by decide, treeOf_regular "abcde" (by decide)⟩

/-- The types of the nodes, and which of them are loose. -/
example : (treeOf "abcde" unbalanced).walk.map (fun n => (n.type, n.fields.spread)) =
    [("root", none), ("list", some true), ("listItem", some false), ("paragraph", none),
      ("text", none), ("image", none), ("thematicBreak", none), ("paragraph", none),
      ("text", none), ("listItem", some true), ("paragraph", none), ("text", none),
      ("code", none)] := by
  decide

end Markdown

end PagePress
