import Mathlib.Data.List.Chain
import PagePress.Proofs.Markdown.Draft
import PagePress.Proofs.Markdown.Lines

/-!
# Nesting — nodes lie within one another and behind one another

The position of a node is taken when it is closed, that of a text grows with it, and that of a
paragraph which no event opened is taken from the nodes in it.

* `InRow` says that nodes lie one behind the other, with their children within them in the same way;
* `Balanced` are events that open and close in pairs, at places of a text that nest and follow one
  another;
* `Draft.Grown` is what balanced events make of open nodes, `Balanced.grown` the run lemma;
* `treeOf_nests`: every node of the tree of balanced events encloses its children, in order.
-/

namespace PagePress

namespace Markdown

open Mdast (Node Kind Fields Point)

/-! ## Nodes in a row -/

/-- Nodes that lie one behind the other between two points, and the children of each within it. -/
inductive InRow : Point → Point → List Node → Prop where
  | nil {a b : Point} : a ≤ b → InRow a b []
  | cons {a b : Point} {p : Mdast.Position} {n : Node} {ns : List Node} :
      n.position = some p → a ≤ p.start → InRow p.start p.stop n.children → InRow p.stop b ns →
        InRow a b (n :: ns)

/-- The first node ends no later than the second one starts. -/
def Precedes (m n : Node) : Prop := ∀ p ∈ m.position, ∀ q ∈ n.position, p.stop ≤ q.start

/-- A node that starts no later than it ends, with its children within it and one behind the
other. -/
def Nests (n : Node) : Prop :=
  ∃ p, n.position = some p ∧ p.start ≤ p.stop ∧
    (∀ c ∈ n.children, ∃ q, c.position = some q ∧ p.start ≤ q.start ∧ q.stop ≤ p.stop) ∧
      n.children.IsChain Precedes

namespace InRow

variable {a b c : Point} {ms ns : List Node} {n : Node}

theorem le (h : InRow a b ns) : a ≤ b := by
  induction h with
  | nil hab => exact hab
  | cons _ ha _ _ hchildren hrest => exact Point.le_trans ha (Point.le_trans hchildren hrest)

theorem of_le_left (hca : c ≤ a) (h : InRow a b ns) : InRow c b ns := by
  cases h with
  | nil hab => exact .nil (Point.le_trans hca hab)
  | cons hn ha hchildren hrest => exact .cons hn (Point.le_trans hca ha) hchildren hrest

theorem of_le_right (h : InRow a b ns) : b ≤ c → InRow a c ns := by
  induction ns generalizing a with
  | nil =>
      intro hbc
      cases h with
      | nil hab => exact .nil (Point.le_trans hab hbc)
  | cons n ns ih =>
      intro hbc
      cases h with
      | cons hn ha hchildren hrest => exact .cons hn ha hchildren (ih hrest hbc)

theorem append (h : InRow a b ms) (h' : InRow b c ns) : InRow a c (ms ++ ns) := by
  induction ms generalizing a with
  | nil =>
      cases h with
      | nil hab => exact h'.of_le_left hab
  | cons m ms ih =>
      cases h with
      | cons hm ha hchildren hrest => exact .cons hm ha hchildren (ih hrest)

theorem exists_of_append (h : InRow a c (ms ++ ns)) : ∃ b, InRow a b ms ∧ InRow b c ns := by
  induction ms generalizing a with
  | nil => exact ⟨a, .nil h.le.refl_left, h⟩
  | cons m ms ih =>
      cases h with
      | cons hm ha hchildren hrest =>
          obtain ⟨b, hms, hns⟩ := ih hrest
          exact ⟨b, .cons hm ha hchildren hms, hns⟩

theorem singleton {p : Mdast.Position} (hn : n.position = some p) (ha : a ≤ p.start)
    (hchildren : InRow p.start p.stop n.children) (hb : p.stop ≤ b) : InRow a b [n] :=
  .cons hn ha hchildren (.nil hb)

/-- Each node lies between the two points. -/
theorem within (h : InRow a b ns) :
    ∀ n ∈ ns, ∃ p, n.position = some p ∧ a ≤ p.start ∧ p.stop ≤ b := by
  induction ns generalizing a with
  | nil => simp
  | cons n ns ih =>
      cases h with
      | @cons _ _ p _ _ hn ha hchildren hrest =>
          rw [List.forall_mem_cons]
          refine ⟨⟨p, hn, ha, hrest.le⟩, fun m hm => ?_⟩
          obtain ⟨q, hq, hstart, hstop⟩ := ih hrest m hm
          exact ⟨q, hq, Point.le_trans ha (Point.le_trans hchildren.le hstart), hstop⟩

theorem isChain (h : InRow a b ns) : ns.IsChain Precedes := by
  induction ns generalizing a with
  | nil => exact .nil
  | cons n ns ih =>
      cases h with
      | @cons _ _ p _ _ hn ha hchildren hrest =>
          refine (ih hrest).cons ?_
          intro m hm p' hp' q hq
          obtain rfl : p = p' := Option.some.inj (hn.symm.trans hp')
          obtain ⟨q', hq', hstart, -⟩ := hrest.within m (List.mem_of_mem_head? hm)
          obtain rfl : q' = q := Option.some.inj (hq'.symm.trans hq)
          exact hstart

/-- Every node at any depth of nodes in a row nests. -/
theorem nests (h : InRow a b ns) : ∀ m ∈ Node.walkAll ns, Nests m := by
  induction h with
  | nil => simp [Node.walkAll]
  | @cons a b p n ns hn ha hchildren hrest ihchildren ihrest =>
      intro m hm
      rw [Node.walkAll, List.mem_append] at hm
      rcases hm with hm | hm
      · cases n with
        | mk t f cs =>
            rw [Node.walk] at hm
            rcases List.mem_cons.1 hm with rfl | hm
            · exact ⟨p, hn, hchildren.le, hchildren.within, hchildren.isChain⟩
            · exact ihchildren m hm
      · exact ihrest m hm

/-! ### Paragraphs around phrasing -/

/-- Nodes in a row, if there are any, lie between the start of the first and the end of the last. -/
theorem tighten (h : InRow a b (n :: ns)) :
    ∃ p q, n.position = some p ∧ ((n :: ns).getLast?.bind Node.position) = some q ∧
      a ≤ p.start ∧ q.stop ≤ b ∧ InRow p.start q.stop (n :: ns) := by
  induction ns generalizing a n with
  | nil =>
      cases h with
      | @cons _ _ p _ _ hn ha hchildren hrest =>
          refine ⟨p, p, hn, hn, ha, hrest.le, ?_⟩
          exact .singleton hn hchildren.le.refl_left hchildren hchildren.le.refl_right
  | cons m ns ih =>
      cases h with
      | @cons _ _ p _ _ hn ha hchildren hrest =>
          obtain ⟨p', q, -, hlast, hp', hq, hrow⟩ := ih hrest
          refine ⟨p, q, hn, ?_, ha, hq, .cons hn hchildren.le.refl_left hchildren ?_⟩
          · rwa [List.getLast?_cons_cons]
          · exact hrow.of_le_left hp'

/-- The paragraph of a run lies where the run lies. -/
theorem paragraphOf (h : InRow a b ns) : InRow a b (paragraphOf ns) := by
  cases ns with
  | nil => exact h
  | cons n ns =>
      obtain ⟨p, q, hn, hlast, hp, hq, hrow⟩ := h.tighten
      have hspan : spanOf (n :: ns).head? (n :: ns).getLast? = some (.span p.start q.stop) := by
        rw [spanOf]
        show (n.position >>= fun p => _) = _
        rw [hn]
        show ((n :: ns).getLast?.bind Node.position >>= fun q => _) = _
        rw [hlast]
        rfl
      exact .singleton (p := .span p.start q.stop) hspan hp hrow hq

/-- Wrapping phrasing keeps nodes in a row. -/
theorem wrapFrom {run : List Node} (h : InRow a b (run.reverse ++ ns)) :
    InRow a b (wrapFrom run ns) := by
  induction ns generalizing a run with
  | nil =>
      rw [Markdown.wrapFrom]
      rw [List.append_nil] at h
      exact h.paragraphOf
  | cons n ns ih =>
      rw [Markdown.wrapFrom]
      split
      · refine ih ?_
        rwa [List.reverse_cons, List.append_assoc, List.singleton_append]
      · obtain ⟨c, hrun, hrest⟩ := h.exists_of_append
        refine hrun.paragraphOf.append ?_
        cases hrest with
        | cons hn hc hchildren hrest => exact .cons hn hc hchildren (ih hrest)

end InRow

/-! ## Balanced events -/

/-- A span within two offsets, with both of its ends at places of a text between characters. -/
structure Span.Within (text : String) (lo hi : Nat) (s : Span) : Prop where
  start : lo ≤ s.start
  order : s.start ≤ s.stop
  stop : s.stop ≤ hi
  valid_start : (⟨s.start⟩ : String.Pos.Raw).IsValid text
  valid_stop : (⟨s.stop⟩ : String.Pos.Raw).IsValid text

instance (text : String) (lo hi : Nat) (s : Span) : Decidable (s.Within text lo hi) :=
  decidable_of_iff (lo ≤ s.start ∧ s.start ≤ s.stop ∧ s.stop ≤ hi ∧
      (⟨s.start⟩ : String.Pos.Raw).IsValid text ∧ (⟨s.stop⟩ : String.Pos.Raw).IsValid text)
    ⟨fun ⟨hlo, horder, hhi, hstart, hstop⟩ => ⟨hlo, horder, hhi, hstart, hstop⟩,
      fun h => ⟨h.start, h.order, h.stop, h.valid_start, h.valid_stop⟩⟩

/-- Events that lie one behind the other between two offsets of a text.  Tags are opened and closed
in pairs, and what stands between them lies within the span of the tag. -/
inductive Balanced (text : String) : Nat → Nat → List Located → Prop where
  | nil {lo hi : Nat} : Balanced text lo hi []
  | single {lo hi : Nat} {e : Located} {es : List Located} :
      (∀ tag, e.event ≠ .open tag) → e.event ≠ .close → e.span.Within text lo hi →
        Balanced text e.span.stop hi es → Balanced text lo hi (e :: es)
  | pair {lo hi : Nat} {tag : Tag} {s s' : Span} {inner es : List Located} :
      s.Within text lo hi → Balanced text s.start s.stop inner → Balanced text s.stop hi es →
        Balanced text lo hi (⟨.open tag, s⟩ :: (inner ++ ⟨.close, s'⟩ :: es))

/-! ## Open nodes -/

variable {text : String} {lo hi : Nat}

/-- The children of an open node lie one behind the other, from its start up to an offset. -/
def Frame.UpTo (text : String) (stop : Nat) (f : Frame) : Prop :=
  InRow ((LineIndex.ofText text).point f.span.start) ((LineIndex.ofText text).point stop)
    f.earlier.reverse

namespace Frame.UpTo

variable {f : Frame}

theorem mono (h : f.UpTo text lo) (hlo : (⟨lo⟩ : String.Pos.Raw).IsValid text)
    (hhi : (⟨hi⟩ : String.Pos.Raw).IsValid text) (hle : lo ≤ hi) : f.UpTo text hi :=
  InRow.of_le_right h (LineIndex.point_mono hlo hhi hle)

theorem start (hf : f.earlier = []) (hvalid : (⟨f.span.start⟩ : String.Pos.Raw).IsValid text) :
    f.UpTo text f.span.start := by
  rw [UpTo, hf]
  exact .nil (LineIndex.point_mono hvalid hvalid le_rfl)

/-- A node may be added behind the others. -/
theorem push (h : f.UpTo text lo) (hlo : (⟨lo⟩ : String.Pos.Raw).IsValid text) {s : Span}
    (hs : s.Within text lo hi) {n : Node}
    (hn : n.position = some ((LineIndex.ofText text).position s))
    (hchildren : InRow ((LineIndex.ofText text).point s.start)
      ((LineIndex.ofText text).point s.stop) n.children) : (f.push n).UpTo text s.stop := by
  have hend := LineIndex.point_mono hs.valid_stop hs.valid_stop le_rfl
  rw [UpTo, Frame.push, List.reverse_cons]
  exact h.append (.singleton hn (LineIndex.point_mono hlo hs.valid_start hs.start) hchildren hend)

/-- The children of a closed node lie within its span. -/
theorem settle (h : f.UpTo text f.span.stop) (k : Kind) :
    InRow ((LineIndex.ofText text).point f.span.start) ((LineIndex.ofText text).point f.span.stop)
      (f.settle k).2 := by
  cases k with
  | listItem =>
      show InRow _ _ (if f.hasParagraph then f.earlier.reverse else wrapPhrasing f.earlier.reverse)
      split
      · exact h
      · exact InRow.wrapFrom h
  | image => exact .nil h.le
  | _ => exact h

end Frame.UpTo

/-- What of an open node matters for where nodes lie. -/
def Frame.shape (f : Frame) : Option Kind × Span × List Node := (f.kind, f.span, f.earlier)

namespace Draft

/-- A draft goes on with further children of its innermost open node, which lie up to an offset. -/
structure Grown (text : String) (d d' : Draft) (stop : Nat) : Prop where
  kind : d'.current.kind = d.current.kind
  span : d'.current.span = d.current.span
  outer : d'.outer.map Frame.shape = d.outer.map Frame.shape
  current : d'.current.UpTo text stop

variable {d d' d'' : Draft} {s : Span}

theorem Grown.trans {m n : Nat} (h : Grown text d d' m) (h' : Grown text d' d'' n) :
    Grown text d d'' n :=
  ⟨h'.kind.trans h.kind, h'.span.trans h.span, h'.outer.trans h.outer, h'.current⟩

/-! ### Single events -/

section

variable (h : d.current.UpTo text lo) (hlo : (⟨lo⟩ : String.Pos.Raw).IsValid text)
  (hs : s.Within text lo hi)

include h hlo hs

theorem grown_leaf (k : Kind) (g : Fields) :
    Grown text d (d.leaf (LineIndex.ofText text) k g s) s.stop := by
  have hspan := LineIndex.point_mono hs.valid_start hs.valid_stop hs.order
  exact ⟨rfl, rfl, rfl, h.push hlo hs rfl (.nil hspan)⟩

theorem grown_appendValue (x : String) :
    Grown text d { d with current := d.current.appendValue x } s.stop :=
  ⟨rfl, rfl, rfl, h.mono hlo hs.valid_stop (hs.start.trans hs.order)⟩

theorem grown_addText (x : String) :
    Grown text d (d.addText (LineIndex.ofText text) x s) s.stop := by
  rw [addText]
  split
  · exact grown_appendValue h hlo hs x
  · split
    · rename_i n earlier hearlier
      split
      · -- The text before it ends where the new one ends.
        have hrow : InRow ((LineIndex.ofText text).point d.current.span.start)
            ((LineIndex.ofText text).point lo) (earlier.reverse ++ [n]) := by
          rw [← List.reverse_cons, ← hearlier]
          exact h
        have hend := LineIndex.point_mono hlo hs.valid_stop (hs.start.trans hs.order)
        obtain ⟨b, hbefore, hn⟩ := hrow.exists_of_append
        cases hn with
        | @cons _ _ p _ _ hn hb hchildren hrest =>
            have hstop := Point.le_trans hrest.le hend
            have hgrown : (extendText n x ((LineIndex.ofText text).point s.stop)).position =
                some { p with stop := (LineIndex.ofText text).point s.stop } :=
              congrArg (Option.map _) hn
            refine ⟨rfl, rfl, rfl, ?_⟩
            rw [Frame.UpTo, List.reverse_cons]
            exact hbefore.append (.singleton hgrown hb (hchildren.of_le_right hstop)
              hstop.refl_right)
      · exact grown_leaf h hlo hs .text _
    · exact grown_leaf h hlo hs .text _

theorem grown_check (checked : Bool) : Grown text d (d.check checked) s.stop := by
  obtain ⟨hcurrent, houter⟩ := map_check (g := Frame.shape) (fun _ _ => rfl) checked d
  have hkind : (d.check checked).current.kind = d.current.kind := congrArg (·.1) hcurrent
  have hspan : (d.check checked).current.span = d.current.span := congrArg (·.2.1) hcurrent
  have hearlier : (d.check checked).current.earlier = d.current.earlier :=
    congrArg (·.2.2) hcurrent
  refine ⟨hkind, hspan, houter, ?_⟩
  rw [Frame.UpTo, hspan, hearlier]
  exact h.mono hlo hs.valid_stop (hs.start.trans hs.order)

end

/-- An event that opens and closes nothing adds to the innermost open node, up to its own end. -/
theorem grown_step {e : Located} (h : d.current.UpTo text lo)
    (hlo : (⟨lo⟩ : String.Pos.Raw).IsValid text) (hs : e.span.Within text lo hi)
    (hopen : ∀ tag, e.event ≠ .open tag) (hclose : e.event ≠ .close) :
    Grown text d (d.step (LineIndex.ofText text) e) e.span.stop := by
  obtain ⟨event, span⟩ := e
  unfold step
  cases event with
  | «open» tag => exact absurd rfl (hopen tag)
  | close => exact absurd rfl hclose
  | text x => exact grown_addText h hlo hs x
  | inlineMath x => exact grown_addText h hlo hs x
  | displayMath x => exact grown_addText h hlo hs x
  | code x => exact grown_leaf h hlo hs _ _
  | html x =>
      dsimp only
      split
      · exact grown_appendValue h hlo hs x
      · exact grown_leaf h hlo hs _ _
  | inlineHtml x => exact grown_leaf h hlo hs _ _
  | footnoteReference label => exact grown_leaf h hlo hs _ _
  | softBreak => exact grown_addText h hlo hs "\n"
  | hardBreak => exact grown_leaf h hlo hs _ _
  | rule => exact grown_leaf h hlo hs _ _
  | task checked => exact grown_check h hlo hs checked

/-! ### Pairs of events -/

/-- What a tag encloses lies within its span, and so does the node that it is closed to. -/
theorem grown_pair {tag : Tag} (h : d.current.UpTo text lo)
    (hlo : (⟨lo⟩ : String.Pos.Raw).IsValid text) (hs : s.Within text lo hi)
    (hinner : Grown text (d.openTag tag s) d' s.stop) :
    Grown text d (d'.close (LineIndex.ofText text)) s.stop := by
  obtain ⟨parent, hopen, hparent⟩ := exists_openTag (g := Frame.shape) (fun _ => rfl) d tag s
  obtain ⟨current, outer⟩ := d'
  have hspan : current.span = s := hinner.span.trans (by rw [hopen]; rfl)
  have hcurrent : current.UpTo text current.span.stop := hspan.symm ▸ hinner.current
  -- The node around the tag is still there, but for marks on it.
  have houter := hinner.outer
  rw [hopen, List.map_cons, hparent] at houter
  obtain ⟨around, rest, rfl, haround, hrest⟩ := List.map_eq_cons_iff.1 houter
  have hkind : around.kind = d.current.kind := congrArg (·.1) haround
  have hspan' : around.span = d.current.span := congrArg (·.2.1) haround
  have hearlier : around.earlier = d.current.earlier := congrArg (·.2.2) haround
  have hup : around.UpTo text s.start := by
    rw [Frame.UpTo, hspan', hearlier]
    exact h.mono hlo hs.valid_start hs.start
  subst hspan
  rw [close]
  dsimp only
  split
  · refine ⟨hkind, hspan', hrest, ?_⟩
    rw [Frame.UpTo, List.reverse_append]
    exact hup.append hcurrent
  · rename_i k hk
    refine ⟨hkind, hspan', hrest, ?_⟩
    exact hup.push hs.valid_start ⟨le_rfl, hs.order, hs.stop, hs.valid_start, hs.valid_stop⟩ rfl
      (hcurrent.settle k)

end Draft

/-- Balanced events add to the innermost open node, up to the end of what they cover. -/
theorem Balanced.grown {events : List Located} (h : Balanced text lo hi events) :
    ∀ {d : Draft}, d.current.UpTo text lo → (⟨lo⟩ : String.Pos.Raw).IsValid text →
      (⟨hi⟩ : String.Pos.Raw).IsValid text → lo ≤ hi →
      d.Grown text (events.foldl (Draft.step (LineIndex.ofText text)) d) hi := by
  induction h with
  | nil =>
      intro d hd hlo hhi hle
      exact ⟨rfl, rfl, rfl, hd.mono hlo hhi hle⟩
  | single hopen hclose hs _ ih =>
      intro d hd hlo hhi hle
      have hstep := Draft.grown_step hd hlo hs hopen hclose
      exact hstep.trans (ih hstep.current hs.valid_stop hhi hs.stop)
  | @pair lo hi tag s s' inner es hs _ _ ihinner ihes =>
      intro d hd hlo hhi hle
      rw [List.foldl_cons, List.foldl_append, List.foldl_cons]
      have hinner := ihinner (d := d.openTag tag s) (.start rfl hs.valid_start) hs.valid_start
        hs.valid_stop hs.order
      have hpair := Draft.grown_pair hd hlo hs hinner
      exact hpair.trans (ihes hpair.current hs.valid_stop hhi hs.stop)

/-! ## Trees -/

/-- In the tree of balanced events every node starts no later than it ends, its children lie within
it, and each of them ends no later than the next one starts. -/
theorem treeOf_nests {events : List Located} (h : Balanced text 0 text.utf8ByteSize events) :
    ∀ n ∈ (treeOf text events).walk, Nests n := by
  have hstart : (⟨0⟩ : String.Pos.Raw).IsValid text := String.Pos.Raw.isValid_zero
  have hend : (⟨text.utf8ByteSize⟩ : String.Pos.Raw).IsValid text :=
    String.Pos.Raw.isValid_rawEndPos
  have hgrown := h.grown (d := .start text) (.start rfl hstart) hstart hend (Nat.zero_le _)
  rw [treeOf]
  generalize events.foldl (Draft.step (LineIndex.ofText text)) (.start text) = d at hgrown ⊢
  obtain ⟨current, outer⟩ := d
  -- Nothing is open but the document.
  obtain rfl : outer = [] := List.map_eq_nil_iff.1 hgrown.outer
  have hspan : current.span = ⟨0, text.utf8ByteSize⟩ := hgrown.span
  have hcurrent : current.UpTo text current.span.stop := by
    rw [hspan]
    exact hgrown.current
  have hchildren := hcurrent.settle .root
  have hroot : InRow ((LineIndex.ofText text).point current.span.start)
      ((LineIndex.ofText text).point current.span.stop)
      [current.finalize (LineIndex.ofText text) .root] :=
    .singleton rfl hchildren.le.refl_left hchildren hchildren.le.refl_right
  intro n hn
  refine hroot.nests n ?_
  rwa [Node.walkAll, Node.walkAll, List.append_nil]

/-- A tight list whose second item is an image: the text of the first one grows over a line feed,
and both items get a paragraph that no event opened. -/
def tightItems : List Located :=
  ⟨.open (.list none), ⟨0, 17⟩⟩ ::
    ((⟨.open .item, ⟨0, 6⟩⟩ ::
        ([⟨.text "é", ⟨2, 4⟩⟩, ⟨.softBreak, ⟨4, 5⟩⟩, ⟨.text "b", ⟨5, 6⟩⟩] ++
          ⟨.close, ⟨0, 6⟩⟩ :: ⟨.open .item, ⟨7, 17⟩⟩ ::
            ((⟨.open (.image "u" ""), ⟨9, 17⟩⟩ ::
                ([⟨.text "ü", ⟨11, 13⟩⟩] ++ [⟨.close, ⟨9, 17⟩⟩])) ++
              [⟨.close, ⟨7, 17⟩⟩]))) ++
      [⟨.close, ⟨0, 17⟩⟩])

theorem balanced_tightItems : Balanced "- é\nb\n- ![ü](u)" 0 17 tightItems := by
  refine .pair (by decide) (.pair (by decide) ?first (.pair (by decide) ?second .nil)) .nil
  case first =>
    exact .single nofun nofun (by decide)
      (.single nofun nofun (by decide) (.single nofun nofun (by decide) .nil))
  case second => exact .pair (by decide) (.single nofun nofun (by decide) .nil) .nil

theorem treeOf_nests_tightItems :
    Balanced "- é\nb\n- ![ü](u)" 0 17 tightItems ∧
      ∀ n ∈ (treeOf "- é\nb\n- ![ü](u)" tightItems).walk, Nests n :=
  ⟨balanced_tightItems, treeOf_nests balanced_tightItems⟩

/-- Offsets are in characters. -/
example :
    ((treeOf "- é\nb\n- ![ü](u)" tightItems).walk.map fun n =>
      (n.type, n.position.map fun p => (p.start.offset, p.stop.offset))) =
      [("root", some (some 0, some 15)), ("list", some (some 0, some 15)),
        ("listItem", some (some 0, some 5)), ("paragraph", some (some 2, some 5)),
        ("text", some (some 2, some 5)), ("listItem", some (some 6, some 15)),
        ("paragraph", some (some 8, some 15)), ("image", some (some 8, some 15))] := by
  decide +kernel

end Markdown

end PagePress
