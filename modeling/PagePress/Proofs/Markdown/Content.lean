import PagePress.Proofs.Markdown.Draft

/-!
# Content — no text is lost on the way into a tree

The text of an event may join the text before it, and it may end up in the value of a block of code,
in the alternative text of an image or in a paragraph that no event opened.

* `letters` is a text without its line feeds, and `Event.payload` the text that an event brings;
* `LiteralsHoldText`: nothing but text stands in blocks of code, HTML and metadata;
* `Draft.Holds` is the invariant: the open nodes hold the letters that were read so far, in order;
* `treeOf_keeps_text`: the tree of any events, balanced or not, holds the letters of all of them.
-/

namespace PagePress

namespace Markdown

open Mdast (Node Kind Fields)

/-! ## Letters -/

/-- The characters of a text but its line feeds. -/
def letters (s : String) : List Char := s.toList.filter (· != '\n')

theorem letters_append (s t : String) : letters (s ++ t) = letters s ++ letters t := by
  simp [letters]

theorem letters_join (ss : List String) : letters (String.join ss) = ss.flatMap letters := by
  rw [letters, String.toList_join, List.filter_flatMap]
  rfl

theorem letters_dropLastNewline (s : String) : letters (dropLastNewline s) = letters s := by
  unfold dropLastNewline
  split
  · rename_i cs hcs
    have hs : s.toList = cs.reverse ++ ['\n'] := by rw [← s.toList.reverse_reverse, hcs]; simp
    simp [letters, hs]
  · rfl

theorem letters_nonEmpty? (s : String) : letters ((nonEmpty? s).getD "") = letters s := by
  unfold nonEmpty?
  split
  · rename_i hs
    rw [String.isEmpty_iff.1 hs]
    rfl
  · rfl

/-- The letters of nodes in document order. -/
def lettersOf (ns : List Node) : List Char := ns.flatMap fun n => letters n.textContent

theorem lettersOf_append (ms ns : List Node) :
    lettersOf (ms ++ ns) = lettersOf ms ++ lettersOf ns :=
  List.flatMap_append

theorem lettersOf_cons (n : Node) (ns : List Node) :
    lettersOf (n :: ns) = letters n.textContent ++ lettersOf ns :=
  List.flatMap_cons

/-- The letters of a node are its own ones, and behind them those of its children. -/
theorem letters_textContent (n : Node) :
    letters n.textContent = letters n.ownText ++ lettersOf n.children := by
  rw [n.textContent_eq, letters_append, letters_join, List.flatMap_map]
  rfl

theorem ownText_of_value_none {k : Kind} {g : Fields} {cs : List Node} (hvalue : g.value = none)
    (hk : k ≠ .image) : (Node.mk k.name g cs).ownText = "" := by
  have himage : (Node.mk k.name g cs).is .image = false := by
    rw [Bool.eq_false_iff, ne_eq, Node.is_iff, Node.kind?, Node.type, Kind.ofName?_name]
    exact fun h => hk (Option.some.inj h)
  rw [Node.ownText, himage, Node.fields, hvalue]
  rfl

/-! ## Phrasing -/

theorem lettersOf_paragraphOf (run : List Node) : lettersOf (paragraphOf run) = lettersOf run := by
  unfold paragraphOf
  split
  · rename_i hrun
    rw [List.isEmpty_iff.1 hrun]
  · have hown : (Node.mk Kind.paragraph.name
        { Fields.none with position := spanOf run.head? run.getLast? } run).ownText = "" :=
      ownText_of_value_none rfl (by simp)
    rw [lettersOf_cons, letters_textContent, hown]
    exact List.append_nil _

/-- Wrapping moves no letter. -/
theorem lettersOf_wrapFrom (ns : List Node) :
    ∀ run, lettersOf (wrapFrom run ns) = lettersOf (run.reverse ++ ns) := by
  induction ns with
  | nil =>
      intro run
      rw [wrapFrom, lettersOf_paragraphOf, List.append_nil]
  | cons n ns ih =>
      intro run
      rw [wrapFrom]
      split
      · rw [ih, List.reverse_cons, List.append_assoc, List.singleton_append]
      · rw [lettersOf_append, lettersOf_paragraphOf, lettersOf_cons, ih, List.reverse_nil,
          List.nil_append, lettersOf_append, lettersOf_cons]

/-! ## Events -/

namespace Event

/-- The text that an event brings; the line feed of a soft break is none. -/
def payload : Event → String
  | .text s | .inlineMath s | .displayMath s | .code s | .html s | .inlineHtml s => s
  | _ => ""

/-- Whether an event may stand in a block of code, HTML or metadata: text, HTML and the end. -/
def fitsLiteral : Event → Bool
  | .close | .text _ | .inlineMath _ | .displayMath _ | .html _ | .softBreak => true
  | _ => false

/-- The open tags behind an event, innermost first. -/
def openedBy (tags : List Tag) : Event → List Tag
  | .open tag => tag :: tags
  | .close => tags.tail
  | _ => tags

end Event

/-- Whether a tag is a block of code, HTML or metadata. -/
def Tag.isLiteral : Tag → Bool
  | .code _ | .htmlBlock | .metadata => true
  | _ => false

/-- Nothing but text stands in blocks of code, HTML and metadata; `tags` are open at the start. -/
def LiteralsHoldText (tags : List Tag) : List Event → Prop
  | [] => True
  | e :: es =>
    (∀ tag ∈ tags.head?, tag.isLiteral = true → e.fitsLiteral = true) ∧
      LiteralsHoldText (e.openedBy tags) es

instance decidableLiteralsHoldText : ∀ tags es, Decidable (LiteralsHoldText tags es)
  | _, [] => isTrue trivial
  | tags, e :: es =>
    have := decidableLiteralsHoldText (e.openedBy tags) es
    inferInstanceAs (Decidable ((∀ tag ∈ tags.head?, tag.isLiteral = true → e.fitsLiteral = true) ∧
      LiteralsHoldText (e.openedBy tags) es))

/-! ## Open nodes -/

namespace Frame

variable {f g : Frame} {k : Kind} {n : Node}

/-- The letters that an open node holds. -/
def letters (f : Frame) : List Char :=
  Markdown.letters (f.fields.value.getD "") ++ lettersOf f.earlier.reverse

/-- An open node that keeps its text in one place: a literal one in its value, and any other in its
children. -/
structure Orderly (f : Frame) : Prop where
  kind : f.kind ≠ some .text
  literal : f.isLiteral = true → f.earlier = []
  value : f.isLiteral = false → f.fields.value = none
  alt : f.fields.alt = none
  /-- A text that may grow has no children. -/
  texts : ∀ n ∈ f.earlier, n.kind? = some .text → n.children = []

theorem letters_push (f : Frame) (n : Node) :
    (f.push n).letters = f.letters ++ Markdown.letters n.textContent := by
  have hnode : lettersOf [n] = Markdown.letters n.textContent := List.append_nil _
  simp only [letters, push, List.reverse_cons, lettersOf_append, hnode, List.append_assoc]

theorem Orderly.push (h : f.Orderly) (hother : f.isLiteral = false)
    (hn : n.kind? = some .text → n.children = []) : (f.push n).Orderly :=
  ⟨h.kind, fun hliteral => absurd (hother.symm.trans hliteral) (by simp), h.value, h.alt,
    List.forall_mem_cons.2 ⟨hn, h.texts⟩⟩

theorem orderly_check {b : Bool} :
    Orderly { f with fields := { f.fields with checked := some b } } ↔ f.Orderly :=
  ⟨fun h => ⟨h.kind, h.literal, h.value, h.alt, h.texts⟩,
    fun h => ⟨h.kind, h.literal, h.value, h.alt, h.texts⟩⟩

theorem orderly_mark : Orderly { f with hasParagraph := true } ↔ f.Orderly :=
  ⟨fun h => ⟨h.kind, h.literal, h.value, h.alt, h.texts⟩,
    fun h => ⟨h.kind, h.literal, h.value, h.alt, h.texts⟩⟩

/-- A literal node takes text into its value. -/
theorem Orderly.appendValue (h : f.Orderly) (hliteral : f.isLiteral = true) (s : String) :
    (f.appendValue s).Orderly ∧
      (f.appendValue s).letters = f.letters ++ Markdown.letters s := by
  refine ⟨⟨h.kind, h.literal, fun hother => absurd (hliteral.symm.trans hother) (by simp), h.alt,
    h.texts⟩, ?_⟩
  simp [letters, Frame.appendValue, h.literal hliteral, lettersOf, letters_append]

/-- What an open node holds is in the node that it is closed to. -/
theorem Orderly.letters_finalize (h : f.Orderly) (index : LineIndex) (hk : f.kind = some k) :
    Markdown.letters (f.finalize index k).textContent = f.letters := by
  -- A node that is not literal has its letters in its children.
  have hbelow (hother : f.isLiteral = false) : f.letters = lettersOf f.earlier.reverse := by
    rw [letters, h.value hother]
    rfl
  have hkept (hother : f.isLiteral = false) (himage : k ≠ .image)
      (hvalue : (f.settle k).1.value = f.fields.value) :
      (f.finalize index k).ownText = "" :=
    ownText_of_value_none (hvalue.trans (h.value hother)) himage
  have hsplit := letters_textContent (f.finalize index k)
  cases k with
  | code | html | yaml =>
      have hliteral : f.isLiteral = true := by rw [isLiteral, hk]
      refine hsplit.trans ?_
      rw [letters, ← letters_dropLastNewline (f.fields.value.getD "")]
      rfl
  | image =>
      -- What stands in an image becomes its alternative text.
      have hother : f.isLiteral = false := by rw [isLiteral, hk]
      have hshown : (Node.mk Kind.image.name f.fields f.earlier.reverse).ownText = "" := by
        rw [Node.ownText, Node.fields, h.value hother, h.alt]
        rfl
      have halt : (f.finalize index .image).ownText = (f.settle .image).1.alt.getD "" := by
        have hvalue : (f.finalize index .image).fields.value = none := h.value hother
        rw [Node.ownText, hvalue]
        rfl
      have hletters := letters_textContent (Node.mk Kind.image.name f.fields f.earlier.reverse)
      rw [hsplit, halt, hbelow hother]
      refine (List.append_nil _).trans ((letters_nonEmpty? _).trans ?_)
      rw [hletters, hshown]
      rfl
  | listItem =>
      have hother : f.isLiteral = false := by rw [isLiteral, hk]
      rw [hsplit, hkept hother (by simp) rfl, hbelow hother]
      show lettersOf
          (if f.hasParagraph then f.earlier.reverse else wrapPhrasing f.earlier.reverse) =
        lettersOf f.earlier.reverse
      split
      · rfl
      · exact lettersOf_wrapFrom f.earlier.reverse []
  | _ =>
      have hother : f.isLiteral = false := by rw [isLiteral, hk]
      rw [hsplit, hkept hother (by simp) rfl, hbelow hother]
      rfl

end Frame

/-! ## Tags and texts -/

/-- A tag opens a node without text. -/
theorem fields_tag (tag : Tag) : tag.node.2.value = none ∧ tag.node.2.alt = none := by
  cases tag with
  | code info => cases info <;> exact ⟨rfl, rfl⟩
  | _ => exact ⟨rfl, rfl⟩

theorem kind_tag_ne_text (tag : Tag) : tag.node.1 ≠ some .text := by
  cases tag with
  | code info => cases info <;> simp [Tag.node]
  | _ => simp [Tag.node]

/-- A text without children grows at its end. -/
theorem lettersOf_extendText {n : Node} (htext : n.kind? = some .text) (hn : n.children = [])
    (s : String) (stop : Mdast.Point) :
    lettersOf [Draft.extendText n s stop] = lettersOf [n] ++ letters s := by
  have hshown : n.ownText = n.fields.value.getD "" := by
    have himage : n.is .image = false := by
      rw [Bool.eq_false_iff, ne_eq, Node.is_iff, htext]
      simp
    rw [Node.ownText, himage]
    cases n.fields.value <;> rfl
  have hgrown : (Draft.extendText n s stop).ownText = n.fields.value.getD "" ++ s := rfl
  have hchildren : (Draft.extendText n s stop).children = [] := hn
  simp only [lettersOf_cons, letters_textContent, hgrown, hchildren, hshown, hn, letters_append]
  simp [lettersOf]

/-! ## Trees under construction -/

namespace Draft

variable {index : LineIndex} {d : Draft} {tags : List Tag} {cs : List Char}

/-- The letters that the open nodes hold, from the outside in. -/
def letters (d : Draft) : List Char := d.outer.reverse.flatMap Frame.letters ++ d.current.letters

/-- The open nodes are those of the open tags, they are orderly, and they hold certain letters. -/
structure Holds (d : Draft) (tags : List Tag) (cs : List Char) : Prop where
  kinds : d.current.kind :: d.outer.map Frame.kind =
    tags.map (fun tag => tag.node.1) ++ [some .root]
  current : d.current.Orderly
  outer : ∀ f ∈ d.outer, f.Orderly ∧ f.isLiteral = false
  letters : d.letters = cs

namespace Holds

/-- The innermost open node is literal exactly if the innermost open tag is. -/
theorem exists_literal (h : d.Holds tags cs) (hliteral : d.current.isLiteral = true) :
    ∃ tag ∈ tags.head?, tag.isLiteral = true := by
  have hkinds := h.kinds
  cases tags with
  | nil =>
      have hroot : d.current.kind = some .root := (List.cons.inj hkinds).1
      rw [Frame.isLiteral, hroot] at hliteral
      cases hliteral
  | cons tag tags =>
      have hkind : d.current.kind = tag.node.1 := (List.cons.inj hkinds).1
      refine ⟨tag, rfl, ?_⟩
      rw [Frame.isLiteral, hkind] at hliteral
      cases tag with
      | code | htmlBlock | metadata => rfl
      | _ => cases hliteral

/-- A change of the innermost open node. -/
theorem change (h : d.Holds tags cs) {f : Frame} {xs : List Char} (hkind : f.kind = d.current.kind)
    (hf : f.Orderly) (hletters : f.letters = d.current.letters ++ xs) :
    Holds { d with current := f } tags (cs ++ xs) := by
  refine ⟨hkind ▸ h.kinds, hf, h.outer, ?_⟩
  rw [← h.letters, Draft.letters, Draft.letters, hletters, List.append_assoc]

theorem openTag (h : d.Holds tags cs) (hother : d.current.isLiteral = false) (tag : Tag)
    (span : Span) : (d.openTag tag span).Holds (tag :: tags) cs := by
  obtain ⟨parent, hopen, hsame⟩ := exists_openTag
    (g := fun f => (f.kind, f.Orderly, f.letters))
    (fun _ => by rw [propext Frame.orderly_mark]; rfl) d tag span
  rw [Prod.mk.injEq, Prod.mk.injEq] at hsame
  obtain ⟨hkind, horderly, hletters⟩ := hsame
  have hfields := fields_tag tag
  rw [hopen]
  refine ⟨?_,
    ⟨kind_tag_ne_text tag, fun _ => rfl, fun _ => hfields.1, hfields.2, by simp [Frame.new]⟩,
    ?_, ?_⟩
  · rw [List.map_cons, hkind, h.kinds]
    rfl
  · rw [List.forall_mem_cons]
    refine ⟨⟨horderly ▸ h.current, ?_⟩, h.outer⟩
    rwa [Frame.isLiteral, hkind]
  · have hnew : (Frame.new tag.node.1 tag.node.2 span).letters = [] := by
      rw [Frame.letters, Frame.new, hfields.1]
      rfl
    rw [Draft.letters, hnew, List.append_nil, List.reverse_cons, List.flatMap_append,
      List.flatMap_singleton, hletters]
    exact h.letters

/-- The letters of a node go to the node around it, whether it is closed or a group. -/
theorem close (h : d.Holds tags cs) : (d.close index).Holds tags.tail cs := by
  obtain ⟨current, outer⟩ := d
  have hkinds := h.kinds
  have hletters := h.letters
  cases outer with
  | nil =>
      -- The document itself stays open.
      cases tags with
      | nil => exact h
      | cons tag tags => simp at hkinds
  | cons parent outer =>
      obtain ⟨⟨hparent, hother⟩, houter⟩ := List.forall_mem_cons.1 h.outer
      obtain ⟨tag, tags, rfl⟩ : ∃ tag ts, tags = tag :: ts := by
        cases tags with
        | nil => simp at hkinds
        | cons tag ts => exact ⟨tag, ts, rfl⟩
      -- It is enough to say what the node around becomes.
      have hclosed {f : Frame} (hkind : f.kind = parent.kind) (hf : f.Orderly)
          (hf' : f.letters = parent.letters ++ current.letters) :
          Holds ⟨f, outer⟩ tags cs := by
        refine ⟨?_, hf, houter, ?_⟩
        · rw [hkind]
          exact (List.cons.inj hkinds).2
        · rw [← hletters, Draft.letters, Draft.letters, hf', List.reverse_cons,
            List.flatMap_append, List.flatMap_singleton, List.append_assoc]
      rw [Draft.close]
      dsimp only
      split
      · rename_i hnone
        have hcurrent : current.isLiteral = false := by rw [Frame.isLiteral, hnone]
        refine hclosed rfl ?_ ?_
        · refine ⟨hparent.kind, fun hliteral => absurd (hother.symm.trans hliteral) (by simp),
            hparent.value, hparent.alt, ?_⟩
          exact List.forall_mem_append.2 ⟨h.current.texts, hparent.texts⟩
        · have hvalue : current.fields.value = none := h.current.value hcurrent
          simp [Frame.letters, hvalue, lettersOf_append, Markdown.letters]
      · rename_i k hk
        refine hclosed rfl (hparent.push hother ?_) ?_
        · intro htext
          rw [Frame.finalize, Node.kind?, Node.type, Kind.ofName?_name] at htext
          exact absurd (hk.trans htext) h.current.kind
        · rw [Frame.letters_push, h.current.letters_finalize index hk]

theorem leaf (h : d.Holds tags cs) (hother : d.current.isLiteral = false) (k : Kind) (g : Fields)
    (span : Span) :
    (d.leaf index k g span).Holds tags (cs ++ Markdown.letters (Node.mk k.name g []).ownText) := by
  refine h.change rfl (h.current.push hother fun _ => rfl) ?_
  rw [Frame.letters_push, letters_textContent]
  exact congrArg (d.current.letters ++ ·) (List.append_nil _)

theorem addText (h : d.Holds tags cs) (s : String) (span : Span) :
    (d.addText index s span).Holds tags (cs ++ Markdown.letters s) := by
  rw [Draft.addText]
  split
  · rename_i hliteral
    obtain ⟨hf, hletters⟩ := h.current.appendValue hliteral s
    exact h.change rfl hf hletters
  · rename_i hliteral
    have hother : d.current.isLiteral = false := by simpa using hliteral
    split
    · rename_i n earlier hearlier
      split
      · rename_i htext
        -- A text before it grows, and no child of that stands behind the end of its value.
        have htexts := h.current.texts
        rw [hearlier, List.forall_mem_cons] at htexts
        refine h.change rfl ?_ ?_
        · exact ⟨h.current.kind, fun hliteral => absurd (hother.symm.trans hliteral) (by simp),
            h.current.value, h.current.alt, List.forall_mem_cons.2 htexts⟩
        · simp only [Frame.letters, hearlier, List.reverse_cons, lettersOf_append,
            List.append_assoc]
          rw [lettersOf_extendText (Node.is_iff.1 htext) (htexts.1 (Node.is_iff.1 htext))]
      · exact h.leaf hother .text _ span
    · exact h.leaf hother .text _ span

theorem check (h : d.Holds tags cs) (checked : Bool) : (d.check checked).Holds tags cs := by
  have hkinds := map_check (g := Frame.kind) (fun _ _ => rfl) checked d
  have hletters := map_check (g := Frame.letters) (fun _ _ => rfl) checked d
  have horderly := map_check (g := Frame.Orderly) (fun _ _ => propext Frame.orderly_check) checked d
  have houter := map_check (g := fun f => f.Orderly ∧ f.isLiteral = false)
    (fun _ _ => propext (and_congr_left' Frame.orderly_check)) checked d
  refine ⟨?_, horderly.1 ▸ h.current, ?_, ?_⟩
  · rw [hkinds.1, hkinds.2]
    exact h.kinds
  · have hmap : ∀ p ∈ d.outer.map fun f => f.Orderly ∧ f.isLiteral = false, p :=
      List.forall_mem_map.2 h.outer
    rw [← houter.2] at hmap
    exact List.forall_mem_map.1 hmap
  · rw [← h.letters, Draft.letters, Draft.letters, hletters.1]
    simp only [List.flatMap_def, List.map_reverse, hletters.2]

/-- One event adds its letters to those that the open nodes hold. -/
theorem step (h : d.Holds tags cs) {e : Located}
    (hfits : ∀ tag ∈ tags.head?, tag.isLiteral = true → e.event.fitsLiteral = true) :
    (d.step index e).Holds (e.event.openedBy tags) (cs ++ Markdown.letters e.event.payload) := by
  obtain ⟨event, span⟩ := e
  dsimp only at hfits ⊢
  -- An event that does not fit into a literal node meets no such node.
  have hother (hevent : event.fitsLiteral = false) : d.current.isLiteral = false := by
    rw [← Bool.not_eq_true]
    intro hliteral
    obtain ⟨tag, htag, htag'⟩ := h.exists_literal hliteral
    exact absurd (hevent.symm.trans (hfits tag htag htag')) (by simp)
  have hquiet {d' : Draft} {tags' : List Tag} (h' : d'.Holds tags' cs) :
      d'.Holds tags' (cs ++ Markdown.letters "") :=
    (List.append_nil cs).symm ▸ h'
  unfold Draft.step
  cases event with
  | «open» tag => exact hquiet (h.openTag (hother rfl) tag span)
  | close => exact hquiet h.close
  | text s => exact h.addText s span
  | inlineMath s => exact h.addText s span
  | displayMath s => exact h.addText s span
  | code s => exact h.leaf (hother rfl) _ _ span
  | html s =>
      dsimp only
      split
      · rename_i hliteral
        obtain ⟨hf, hletters⟩ := h.current.appendValue hliteral s
        exact h.change rfl hf hletters
      · rename_i hliteral
        exact h.leaf (by simpa using hliteral) _ _ span
  | inlineHtml s => exact h.leaf (hother rfl) _ _ span
  | footnoteReference label => exact h.leaf (hother rfl) _ _ span
  | softBreak => exact h.addText "\n" span
  | hardBreak => exact h.leaf (hother rfl) _ _ span
  | rule => exact h.leaf (hother rfl) _ _ span
  | task checked => exact hquiet (h.check checked)

variable (index) in
theorem foldl_step {events : List Located} :
    ∀ {d : Draft} {tags : List Tag} {cs : List Char}, d.Holds tags cs →
      LiteralsHoldText tags (events.map Located.event) →
      ∃ tags', (events.foldl (Draft.step index) d).Holds tags'
        (cs ++ Markdown.letters (String.join (events.map fun e => e.event.payload))) := by
  induction events with
  | nil =>
      intro d tags cs h _
      exact ⟨tags, (List.append_nil cs).symm ▸ h⟩
  | cons e events ih =>
      intro d tags cs h hevents
      obtain ⟨tags', hrest⟩ := ih (h.step hevents.1) hevents.2
      refine ⟨tags', ?_⟩
      rw [List.map_cons, String.join_cons, letters_append, ← List.append_assoc]
      exact hrest

variable (index) in
/-- What is open at the end is closed from the inside out. -/
theorem finishOuter {outer : List Frame} :
    ∀ {f : Frame} {tags : List Tag}, Holds ⟨f, outer⟩ tags cs →
      Holds ⟨Draft.finishOuter index outer f, []⟩ [] cs := by
  induction outer with
  | nil =>
      intro f tags h
      cases tags with
      | nil => exact h
      | cons tag tags => simpa using h.kinds
  | cons parent outer ih =>
      intro f tags h
      have hclose : (Draft.close index ⟨f, parent :: outer⟩).Holds tags.tail cs := h.close
      rw [Draft.close] at hclose
      rw [Draft.finishOuter]
      dsimp only at hclose
      split
      · rename_i hnone
        rw [hnone] at hclose
        exact ih hclose
      · rename_i k hk
        rw [hk] at hclose
        exact ih hclose

end Holds

end Draft

/-! ## Trees -/

theorem holds_start (text : String) : (Draft.start text).Holds [] [] :=
  ⟨rfl, ⟨by simp [Draft.start, Frame.new], fun _ => rfl, fun _ => rfl, rfl,
    by simp [Draft.start, Frame.new]⟩, by simp [Draft.start], rfl⟩

/-- But for line feeds, the text of the tree of any events is the text that they bring, in order, if
nothing but text stands in blocks of code, HTML and metadata. -/
theorem treeOf_keeps_text (text : String) {events : List Located}
    (h : LiteralsHoldText [] (events.map Located.event)) :
    letters (treeOf text events).textContent =
      letters (String.join (events.map fun e => e.event.payload)) := by
  obtain ⟨tags, hread⟩ := (holds_start text).foldl_step (LineIndex.ofText text) h
  have hend := hread.finishOuter (LineIndex.ofText text)
  have hroot : (Draft.finishOuter _ _ _).kind = some .root := (List.cons.inj hend.kinds).1
  refine (hend.current.letters_finalize (LineIndex.ofText text) hroot).trans ?_
  exact hend.letters

/-- An end without a start, a tight item whose text grows, an image in an image, a group in which a
text goes on, and blocks of code and HTML, the last of them without an end. -/
def scattered : List Located :=
  [.close, .open (.list none), .open .item, .text "a", .softBreak, .inlineMath "b",
    .open (.image "i.png" "t"), .text "c", .open (.image "j.png" ""), .code "d", .close, .close,
    .inlineHtml "<e>", .rule, .footnoteReference "f", .open .group, .text "g", .close, .text "h",
    .task true, .close, .open (.code (some "i")), .text "j\n", .html "k\n", .close, .close,
    .html "<l>\n", .open .htmlBlock, .html "m\n", .text "n\n"].map fun e => ⟨e, ⟨0, 1⟩⟩

theorem treeOf_keeps_text_scattered :
    LiteralsHoldText [] (scattered.map Located.event) ∧
      letters (treeOf "abcde" scattered).textContent =
        letters (String.join (scattered.map fun e => e.event.payload)) :=
  ⟨by decide, treeOf_keeps_text "abcde" (by decide)⟩

/-- The text of the tree itself. -/
example : (treeOf "abcde" scattered).textContent = "a\nbcd<e>ghj\nk<l>\nm\nn" := by
  decide

end Markdown

end PagePress
