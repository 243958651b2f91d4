import PagePress.Proofs.Markdown.Tree
import PagePress.Proofs.Markup.Acceptance
import PagePress.Proofs.Render.InlineMarkup

/-!
# Totality — which documents are rendered

Without matchers, all that can go wrong in a document of standard nodes is that markup text cannot
be read.  Such text is the value of a raw HTML node that stands by itself, or the HTML of all
children of a node whose children run on in a line with raw HTML among them.

* `SlotReads` and `ContentReads` say which texts are read for a node and for its children;
* `Hinges` describes a computation that succeeds exactly if the texts it reads can be read;
* `settles_of_below` is the step from the nodes below a node to the node itself, kind by kind;
* `document_renders`: a document of standard nodes is rendered, or some text that is read holds
  a declaration that is misshapen.
-/

namespace PagePress

namespace Render

open Mdast (Kind Align)
open View (Node)

/-! ## Computations that hinge on markup texts -/

/-- A computation that succeeds if all markup texts it reads can be read, and otherwise fails
with an error of markup. -/
inductive Hinges {α : Type} (reads : List Char → Prop) : Except Error α → Prop where
  | ok (a : α) : (∀ s, reads s → (Markup.parseChars? s).isSome = true) → Hinges reads (.ok a)
  | error {s : List Char} : reads s → Markup.parseChars? s = none → Hinges reads (.error .markup)

namespace Hinges

variable {α β : Type} {R S : List Char → Prop} {x : Except Error α}

theorem pure (a : α) : Hinges (fun _ => False) (.ok a : Except Error α) :=
  .ok a fun _ h => h.elim

theorem congr (h : Hinges R x) (hRS : ∀ s, R s ↔ S s) : Hinges S x := by
  cases h with
  | ok a hreads => exact .ok a fun s hs => hreads s ((hRS s).2 hs)
  | error hs hnone => exact .error ((hRS _).1 hs) hnone

theorem map (h : Hinges R x) (f : α → β) : Hinges R (x.map f) := by
  cases h with
  | ok a hreads => exact .ok (f a) hreads
  | error hs hnone => exact .error hs hnone

/-- A second computation reads further texts; if there is none, the texts that it would read do
not matter. -/
theorem bind {S : α → List Char → Prop} {T : List Char → Prop} {f : α → Except Error β}
    (h : Hinges R x) (hf : ∀ a, x = .ok a → Hinges (S a) (f a)) (hR : ∀ s, R s → T s)
    (hS : ∀ a, x = .ok a → ∀ s, S a s → T s)
    (hT : ∀ a, x = .ok a → ∀ s, T s → R s ∨ S a s) : Hinges T (x >>= f) := by
  cases h with
  | error hs hnone => exact .error (hR _ hs) hnone
  | ok a hreads =>
      have hfa : Hinges (S a) (f a) := hf a rfl
      have hSa := hS a rfl
      have hTa := hT a rfl
      show Hinges T (f a)
      generalize f a = y at hfa ⊢
      cases hfa with
      | error hs hnone => exact .error (hSa _ hs) hnone
      | ok b hreads' =>
          refine .ok b fun s hs => ?_
          rcases hTa s hs with hs | hs
          · exact hreads s hs
          · exact hreads' s hs

theorem read (s : List Char) : Hinges (· = s) (read s) := by
  unfold Render.read
  cases hparse : Markup.parseChars? s with
  | none => exact .error rfl hparse
  | some ns =>
      refine .ok ns ?_
      rintro _ rfl
      rw [hparse]
      rfl

/-- One computation before a list of others reads the texts of all of them. -/
theorem cons {γ δ : Type} {p : δ} {ps : List δ} {R : δ → List Char → Prop} {y : Except Error β}
    (hp : Hinges (R p) x) (hps : Hinges (fun s => ∃ q ∈ ps, R q s) y) (g : α → β → γ) :
    Hinges (fun s => ∃ q ∈ p :: ps, R q s) (x >>= fun a => y.map (g a)) := by
  refine hp.bind (fun a _ => hps.map (g a)) ?_ ?_ ?_
  · intro s hs
    exact ⟨p, List.mem_cons_self .., hs⟩
  · rintro _ _ s ⟨q, hq, hs⟩
    exact ⟨q, List.mem_cons_of_mem _ hq, hs⟩
  · rintro _ _ s ⟨q, hq, hs⟩
    rcases List.mem_cons.1 hq with rfl | hq
    · exact .inl hs
    · exact .inr ⟨q, hq, hs⟩

theorem collect_cons {δ : Type} {p : δ} {ps : List δ} {R : δ → List Char → Prop} {x : Slot}
    {xs : List Slot} (hp : Hinges (R p) x)
    (hps : Hinges (fun s => ∃ q ∈ ps, R q s) (Render.collect xs)) :
    Hinges (fun s => ∃ q ∈ p :: ps, R q s) (Render.collect (x :: xs)) :=
  hp.cons hps fun o ns => o.toList ++ ns

theorem collect {ps : List α} {f : α → Slot} {R : α → List Char → Prop}
    (h : ∀ p ∈ ps, Hinges (R p) (f p)) :
    Hinges (fun s => ∃ p ∈ ps, R p s) (collect (ps.map f)) := by
  induction ps with
  | nil => exact (Hinges.pure []).congr (by simp)
  | cons p ps ih =>
      have hp : Hinges (R p) (f p) := h p (List.mem_cons_self ..)
      have hps := ih fun q hq => h q (List.mem_cons_of_mem _ hq)
      exact hp.collect_cons hps

theorem fragment {ps : List α} {f : α → Part} {R : α → List Char → Prop}
    (h : ∀ p ∈ ps, Hinges (R p) (f p).fragment) :
    Hinges (fun s => ∃ p ∈ ps, R p s) (fragment (ps.map f)) := by
  induction ps with
  | nil => exact (Hinges.pure []).congr (by simp)
  | cons p ps ih =>
      have hp : Hinges (R p) (f p).fragment := h p (List.mem_cons_self ..)
      have hps := ih fun q hq => h q (List.mem_cons_of_mem _ hq)
      exact hp.cons hps fun h hs => h ++ hs

end Hinges

/-! ## The texts that are read -/

/-- Whether a node is rendered from its rendered children. -/
def showsContent (defs : List (String × Mdast.Node)) (n : Mdast.Node) : Bool :=
  match n.kind? with
  | some .root | some .paragraph | some .heading | some .blockquote | some .list | some .listItem
  | some .tableCell | some .footnoteDefinition | some .emphasis | some .strong | some .delete
  | some .link | some .footnote => true
  | some .linkReference => (n.fields.identifier.bind (lookup defs)).isSome
  | _ => false

section

variable (defs : List (String × Mdast.Node))

mutual

/-- The markup texts that are read for the slot of a node. -/
inductive SlotReads : Mdast.Node → List Char → Prop where
  /-- Raw HTML is read by itself. -/
  | html {n : Mdast.Node} : n.kind? = some .html → SlotReads n (n.value.getD "").toList
  | content {n : Mdast.Node} {s : List Char} :
      showsContent defs n = true → ContentReads n s → SlotReads n s
  /-- A row of its own shows the content of its cells. -/
  | row {n c : Mdast.Node} {s : List Char} :
      n.kind? = some .tableRow → c ∈ n.children → ContentReads c s → SlotReads n s
  /-- A table shows the content of the cells of its rows. -/
  | table {n r c : Mdast.Node} {s : List Char} :
      n.kind? = some .table → r ∈ n.children → c ∈ r.children → ContentReads c s → SlotReads n s

/-- The markup texts that are read for the children of a node. -/
inductive ContentReads : Mdast.Node → List Char → Prop where
  /-- A child is rendered unless it is raw HTML in a line. -/
  | child {n c : Mdast.Node} {s : List Char} :
      c ∈ n.children → (isPhrasingParent n = true → c.is .html = false) → SlotReads c s →
      ContentReads n s
  /-- Children with raw HTML among them are read together where they run on in a line. -/
  | fragment {n : Mdast.Node} {s : List Char} :
      isPhrasingParent n = true → (∃ c ∈ n.children, c.is .html = true) →
      fragment (n.children.map (part [] defs)) = .ok s → ContentReads n s

end

/-- What is rendered for a node and for its children hinges on the texts that are read. -/
structure Settles (n : Mdast.Node) : Prop where
  slot : Hinges (SlotReads defs n) (slot [] defs n)
  content : Hinges (ContentReads defs n) (content n (n.children.map (part [] defs)))

end

section

variable {defs : List (String × Mdast.Node)} {n : Mdast.Node} {s : List Char}

theorem part_fragment_hinges (hslot : Hinges (SlotReads defs n) (slot [] defs n)) :
    Hinges (fun s => n.is .html = false ∧ SlotReads defs n s) (part [] defs n).fragment := by
  rw [Part.fragment, part_node, part_chosen]
  by_cases hhtml : n.is .html = true
  · -- Raw HTML is written as it is, and nothing is read yet.
    rw [hhtml, Option.isNone_none, Bool.and_true, if_pos rfl]
    exact (Hinges.pure _).congr (by simp)
  · rw [Bool.not_eq_true] at hhtml
    rw [hhtml, Bool.false_and, if_neg Bool.false_ne_true]
    exact (hslot.map _).congr (by simp)

theorem content_hinges (h : ∀ c ∈ n.children, Hinges (SlotReads defs c) (slot [] defs c)) :
    Hinges (ContentReads defs n) (content n (n.children.map (part [] defs))) := by
  -- The children are read one by one, unless raw HTML among them makes them one text.
  have hany : (n.children.map (part [] defs)).any (fun p => p.node.is .html) =
      n.children.any fun c => c.is .html := by
    simp [Function.comp_def]
  rw [content, hany]
  have hmixed : (isPhrasingParent n && n.children.any fun c => c.is .html) = true ↔
      isPhrasingParent n = true ∧ ∃ c ∈ n.children, c.is .html = true := by
    rw [Bool.and_eq_true, List.any_eq_true]
  by_cases hline : (isPhrasingParent n && n.children.any fun c => c.is .html) = true
  · rcases hmixed.1 hline with ⟨hparent, hhtml⟩
    have hparts := Hinges.fragment fun c hc => part_fragment_hinges (h c hc)
    rw [if_pos hline]
    refine hparts.bind (fun text _ => Hinges.read text) ?_ ?_ ?_
    · rintro s ⟨c, hc, hother, hs⟩
      exact .child hc (fun _ => hother) hs
    · rintro text htext s rfl
      exact .fragment hparent hhtml htext
    · intro text htext s hs
      cases hs with
      | child hc hother hs => exact .inl ⟨_, hc, hother hparent, hs⟩
      | fragment _ _ hs => exact .inr (Except.ok.inj (hs.symm.trans htext))
  · rw [if_neg hline, List.map_map]
    refine (Hinges.collect h).congr fun s => ⟨?_, ?_⟩
    · rintro ⟨c, hc, hs⟩
      refine .child hc (fun hparent => ?_) hs
      rw [← Bool.not_eq_true]
      exact fun hhtml => hline (hmixed.2 ⟨hparent, c, hc, hhtml⟩)
    · intro hs
      cases hs with
      | child hc _ hs => exact ⟨_, hc, hs⟩
      | fragment hparent hhtml _ => exact absurd (hmixed.2 ⟨hparent, hhtml⟩) hline

/-! ## One node -/

theorem slotReads_iff :
    SlotReads defs n s ↔
      (n.kind? = some .html ∧ s = (n.value.getD "").toList) ∨
      (showsContent defs n = true ∧ ContentReads defs n s) ∨
      (n.kind? = some .tableRow ∧ ∃ c ∈ n.children, ContentReads defs c s) ∨
      (n.kind? = some .table ∧ ∃ r ∈ n.children, ∃ c ∈ r.children, ContentReads defs c s) := by
  constructor
  · intro h
    cases h with
    | html hkind => exact .inl ⟨hkind, rfl⟩
    | content hshows hs => exact .inr (.inl ⟨hshows, hs⟩)
    | row hkind hc hs => exact .inr (.inr (.inl ⟨hkind, _, hc, hs⟩))
    | table hkind hr hc hs => exact .inr (.inr (.inr ⟨hkind, _, hr, _, hc, hs⟩))
  · rintro (⟨hkind, rfl⟩ | ⟨hshows, hs⟩ | ⟨hkind, c, hc, hs⟩ | ⟨hkind, r, hr, c, hc, hs⟩)
    · exact .html hkind
    · exact .content hshows hs
    · exact .row hkind hc hs
    · exact .table hkind hr hc hs

/-- An output of view nodes reads nothing more. -/
theorem Hinges.output {α : Type} {R : List Char → Prop} {x : Except Error α} (h : Hinges R x)
    {f : α → Output} {g : α → Option Node} (hf : ∀ a, (f a).slot = .ok (g a)) :
    Hinges R (x.map f >>= Output.slot) := by
  cases h with
  | error hs hnone => exact .error hs hnone
  | ok a hreads =>
      show Hinges R (f a).slot
      rw [hf]
      exact .ok (g a) hreads

theorem cells_hinges (tag : String) {cs : List Mdast.Node} :
    ∀ {as : List (Option Align)},
      (∀ c ∈ cs, Hinges (ContentReads defs c) (content c (c.children.map (part [] defs)))) →
      Hinges (fun s => ∃ c ∈ cs, ContentReads defs c s)
        (collect (cells tag as (cs.map (part [] defs)))) := by
  induction cs with
  | nil =>
      intro as _
      exact (Hinges.pure []).congr (by simp)
  | cons c cs ih =>
      intro as h
      have hc := h c (List.mem_cons_self ..)
      have hcs : Hinges (fun s => ∃ d ∈ cs, ContentReads defs d s)
          (collect (cells tag as.tail (cs.map (part [] defs)))) :=
        ih fun d hd => h d (List.mem_cons_of_mem _ hd)
      rw [List.map_cons, cells, Part.slotOr, part_chosen, part_content]
      exact (hc.map _).collect_cons hcs

theorem row_hinges (tag : String) (as : List (Option Align)) {cs : List Mdast.Node}
    (h : ∀ c ∈ cs, Hinges (ContentReads defs c) (content c (c.children.map (part [] defs)))) :
    Hinges (fun s => ∃ c ∈ cs, ContentReads defs c s) (row tag as (cs.map (part [] defs))) :=
  (cells_hinges tag h).map _

theorem rowSlot_hinges (tag : String) (as : List (Option Align)) {r : Mdast.Node}
    (h : ∀ c ∈ r.children,
      Hinges (ContentReads defs c) (content c (c.children.map (part [] defs)))) :
    Hinges (fun s => ∃ c ∈ r.children, ContentReads defs c s)
      (rowSlot tag as (part [] defs r)) := by
  rw [rowSlot, Part.slotOr, part_chosen, part_parts]
  exact (row_hinges tag as h).map some

theorem table_hinges (f : Mdast.Fields) {rs : List Mdast.Node}
    (h : ∀ r ∈ rs, ∀ c ∈ r.children,
      Hinges (ContentReads defs c) (content c (c.children.map (part [] defs)))) :
    Hinges (fun s => ∃ r ∈ rs, ∃ c ∈ r.children, ContentReads defs c s)
      (table f (rs.map (part [] defs))) := by
  refine Hinges.map ?_ _
  cases rs with
  | nil => exact (Hinges.pure []).congr (by simp)
  | cons r rs =>
      have hhead := rowSlot_hinges "th" (f.align.getD []) (h r (List.mem_cons_self ..))
      have hbody := Hinges.collect fun q hq =>
        rowSlot_hinges "td" (f.align.getD []) (h q (List.mem_cons_of_mem _ hq))
      rw [List.map_cons, rowSlots, List.map_map]
      exact hhead.collect_cons hbody

/-- A node of a standard type settles if all nodes below it do. -/
theorem settles_of_below (hkind : n.kind?.isSome = true)
    (h : ∀ m ∈ Mdast.Node.walkAll n.children, Settles defs m) : Settles defs n := by
  -- A table reads the cells of its rows, so nodes two levels below count as well.
  have hchildren : ∀ c ∈ n.children, Settles defs c :=
    fun c hc => h c (Mdast.Node.mem_walkAll.2 ⟨c, hc, Mdast.Node.mem_walk_self c⟩)
  have hbelow : ∀ {r c}, r ∈ n.children → c ∈ r.children → c ∈ Mdast.Node.walkAll n.children := by
    intro r c hr hc
    refine Mdast.Node.mem_walkAll.2 ⟨r, hr, ?_⟩
    refine Mdast.Node.walkAll_children_subset (Mdast.Node.mem_walk_self r) c ?_
    exact Mdast.Node.mem_walkAll.2 ⟨c, hc, Mdast.Node.mem_walk_self c⟩
  have hcontent := content_hinges fun c hc => (hchildren c hc).slot
  refine ⟨?_, hcontent⟩
  obtain ⟨k, hk⟩ := Option.isSome_iff_exists.1 hkind
  rw [slot_standard, standard]
  simp only [hk]
  -- Most kinds show their content in one element; the others read nothing.
  have hshown : ∀ {f : List Node → Output} {g : List Node → Option Node},
      (∀ s, SlotReads defs n s ↔ ContentReads defs n s) → (∀ ns, (f ns).slot = .ok (g ns)) →
        Hinges (SlotReads defs n)
          ((content n (n.children.map (part [] defs))).map f >>= Output.slot) := by
    intro f g hreads hf
    exact (hcontent.output hf).congr fun s => (hreads s).symm
  have hleaf : ∀ {o : Output} {m : Option Node}, (∀ s, ¬ SlotReads defs n s) → o.slot = .ok m →
      Hinges (SlotReads defs n) (.ok o >>= Output.slot) := by
    intro o m hreads hslot
    show Hinges _ o.slot
    rw [hslot]
    exact (Hinges.pure m).congr fun s => iff_of_false id (hreads s)
  cases k with
  | root => exact hshown (by simp [slotReads_iff, showsContent, hk]) fun _ => rfl
  | paragraph => exact hshown (by simp [slotReads_iff, showsContent, hk]) fun _ => rfl
  | text => exact hleaf (by simp [slotReads_iff, showsContent, hk]) rfl
  | heading => exact hshown (by simp [slotReads_iff, showsContent, hk]) fun _ => rfl
  | thematicBreak => exact hleaf (by simp [slotReads_iff, showsContent, hk]) rfl
  | blockquote => exact hshown (by simp [slotReads_iff, showsContent, hk]) fun _ => rfl
  | list => exact hshown (by simp [slotReads_iff, showsContent, hk]) fun _ => rfl
  | listItem => exact hshown (by simp [slotReads_iff, showsContent, hk]) fun _ => rfl
  | table =>
      have htable := table_hinges n.fields fun r hr c hc => (h c (hbelow hr hc)).content
      refine (htable.output fun _ => rfl).congr fun s => ?_
      simp [slotReads_iff, showsContent, hk]
  | tableRow =>
      have hrow := row_hinges "td" [] fun c hc => (hchildren c hc).content
      refine (hrow.output fun _ => rfl).congr fun s => ?_
      simp [slotReads_iff, showsContent, hk]
  | tableCell => exact hshown (by simp [slotReads_iff, showsContent, hk]) fun _ => rfl
  | html =>
      have hread := (Hinges.read (n.value.getD "").toList).map fun ns =>
        gather (ns.filter fun n => !n.isBlank)
      refine hread.congr fun s => ?_
      simp [slotReads_iff, showsContent, hk]
  | code => exact hleaf (by simp [slotReads_iff, showsContent, hk]) rfl
  | yaml => exact hleaf (by simp [slotReads_iff, showsContent, hk]) rfl
  | definition => exact hleaf (by simp [slotReads_iff, showsContent, hk]) rfl
  | footnoteDefinition => exact hshown (by simp [slotReads_iff, showsContent, hk]) fun _ => rfl
  | emphasis => exact hshown (by simp [slotReads_iff, showsContent, hk]) fun _ => rfl
  | strong => exact hshown (by simp [slotReads_iff, showsContent, hk]) fun _ => rfl
  | delete => exact hshown (by simp [slotReads_iff, showsContent, hk]) fun _ => rfl
  | inlineCode => exact hleaf (by simp [slotReads_iff, showsContent, hk]) rfl
  | «break» => exact hleaf (by simp [slotReads_iff, showsContent, hk]) rfl
  | link => exact hshown (by simp [slotReads_iff, showsContent, hk]) fun _ => rfl
  | image => exact hleaf (by simp [slotReads_iff, showsContent, hk]) rfl
  | linkReference =>
      -- Without a definition the reference is shown as it was written.
      cases hreferent : n.fields.identifier.bind (lookup defs) with
      | none =>
          simp only [ofKind, linkReference, Site.referent?, hreferent]
          exact hleaf (o := .node _) (by simp [slotReads_iff, showsContent, hk, hreferent]) rfl
      | some d =>
          have hlinked := (hcontent.map (anchor d.fields.url d.fields.title)).output
            (f := .node) fun _ => rfl
          simp only [ofKind, linkReference, Site.referent?, hreferent]
          refine hlinked.congr fun s => ?_
          simp [slotReads_iff, showsContent, hk, hreferent]
  | imageReference => exact hleaf (by simp [slotReads_iff, showsContent, hk]) rfl
  | footnote => exact hshown (by simp [slotReads_iff, showsContent, hk]) fun _ => rfl
  | footnoteReference => exact hleaf (by simp [slotReads_iff, showsContent, hk]) rfl

end

/-! ## Whole documents -/

theorem settles_of_standard (defs : List (String × Mdast.Node)) {root : Mdast.Node}
    (h : ∀ n ∈ root.walk, n.kind?.isSome = true) : ∀ n ∈ root.walk, Settles defs n :=
  Mdast.Node.of_forall_mem_walk
    (fun _ hn hbelow => settles_of_below hn fun m hm => (hbelow m hm).2) h

/-- A document of standard nodes, such as every document that is read from markdown, is rendered
exactly if every markup text that is read for it can be read.  Otherwise markup is the error, and
one of these texts holds a comment, a declaration or a processing instruction that escaping keeps
and that cannot be read by itself: no tag and no other text is ever at fault. -/
theorem document_renders {root : Mdast.Node}
    (h : (∀ n ∈ root.walk, n.kind?.isSome = true) ∨ ∃ text, root = Markdown.parse text) :
    ((∃ t, document [] root = .ok t) ↔
      ∀ s, SlotReads (definitions root) root s → (Markup.parseChars? s).isSome = true) ∧
    ((∃ t, document [] root = .ok t) ∨
      document [] root = .error .markup ∧
        ∃ s, SlotReads (definitions root) root s ∧
          ∃ m ∈ Markup.kept s, Markup.IsDeclaration m ∧ ¬ Markup.ReadsWhole m) := by
  have hstandard : ∀ n ∈ root.walk, n.kind?.isSome = true := by
    rcases h with h | ⟨text, rfl⟩
    · exact h
    · exact (Markdown.parse_sound text).kinds
  have hslot := (settles_of_standard (definitions root) hstandard root
    (Mdast.Node.mem_walk_self root)).slot
  have hdocument : Hinges (SlotReads (definitions root) root) (document [] root) := hslot.map _
  generalize document [] root = x at hdocument ⊢
  cases hdocument with
  | ok t hreads => exact ⟨iff_of_true ⟨t, rfl⟩ hreads, .inl ⟨t, rfl⟩⟩
  | @error s hs hnone =>
      have hkept := Markup.exists_kept_of_parseChars?_eq_none hnone
      refine ⟨iff_of_false ?_ ?_, .inr ⟨rfl, s, hs, hkept⟩⟩
      · rintro ⟨t, ht⟩
        cases ht
      · intro hreads
        have hread := hreads s hs
        rw [hnone] at hread
        cases hread

/-- A document of one declaration, of which nothing is known. -/
def misdeclared : Mdast.Node := Markdown.parse "<!x>"

theorem misdeclared_not_rendered :
    (∀ n ∈ misdeclared.walk, n.kind?.isSome = true) ∧ ¬ ∃ t, document [] misdeclared = .ok t := by
  have hstandard : ∀ n ∈ misdeclared.walk, n.kind?.isSome = true := by decide +kernel
  have herror : document [] misdeclared = .error .markup := by decide +kernel
  refine ⟨hstandard, ?_⟩
  rintro ⟨t, ht⟩
  rw [herror] at ht
  cases ht

theorem misdeclared_renders :
    ∃ s, SlotReads (definitions misdeclared) misdeclared s ∧
      ∃ m ∈ Markup.kept s, Markup.IsDeclaration m ∧ ¬ Markup.ReadsWhole m := by
  have herror : document [] misdeclared = .error .markup := by decide +kernel
  rcases (@document_renders misdeclared (.inr ⟨"<!x>", rfl⟩)).2 with ⟨t, ht⟩ | ⟨-, hread⟩
  · rw [herror] at ht
    cases ht
  · exact hread

end Render

end PagePress
