import Mathlib.Data.List.Forall2
import PagePress.Render.Document

/-!
# Gauges — what standard renderers keep of their children

Standard renderers put line feeds between the nodes they are given, put them into elements of
their own, into sections or cells, or take a paragraph apart.

* `Gauge` is a measure of view nodes that none of this changes;
* `Gauge.measure_wrapLoose`, `Gauge.measure_itemContent`, `Gauge.measure_tableSections` and the
  lemmas beside them: whatever is measured of children is measured of what they are assembled to;
* `Gauge.slot_ofKind` says so of the standard renderer of every kind that wraps its content,
  `Gauge.slot_row` and `Gauge.slot_table` of rows and tables.
-/

namespace PagePress

namespace Render

open Mdast (Kind Align)
open View (Node)

/-- The tags of the elements that standard renderers make. -/
def standardTags : List String :=
  [containerTag, "p", "h1", "h2", "h3", "h4", "h5", "h6", "hr", "blockquote", "ul", "ol", "li",
    "input", "table", "thead", "tbody", "tr", "th", "td", "pre", "code", "em", "strong", "del",
    "br", "a", "img", "sup"]

/-- A measure of view nodes, one after another, that sees neither the elements nor the blanks that
standard renderers add. -/
structure Gauge (α : Type) where
  measure : List Node → List α
  measure_append : ∀ ms ns, measure (ms ++ ns) = measure ms ++ measure ns
  measure_blank : ∀ s ∈ ["\n", " "], measure [.text s] = []
  measure_element : ∀ t ∈ standardTags, ∀ as cs, measure [.element t as cs] = measure cs

theorem headingTag_mem (depth : Option UInt8) : headingTag depth ∈ standardTags := by
  -- Any level is brought between one and six.
  have hrange : ∀ n ∈ List.range' 1 6, s!"h{n}" ∈ standardTags := by decide +kernel
  exact hrange _ (List.mem_range'_1.2 ⟨by omega, by omega⟩)

theorem map_map_some {β : Type} {x : Except Error Node} {f : Option Node → β} :
    (x.map some).map f = x.map fun m => f (some m) := by
  cases x <;> rfl

theorem map_node_slot {x : Except Error Node} : x.map .node >>= Output.slot = x.map some := by
  cases x <;> rfl

namespace Gauge

variable {α : Type} (g : Gauge α)

/-- What is measured of the node in a slot. -/
def slot (o : Option Node) : List α := g.measure o.toList

theorem measure_nil : g.measure [] = [] := by
  have h := congrArg List.length (g.measure_append [] [])
  rw [List.append_nil, List.length_append] at h
  exact List.eq_nil_of_length_eq_zero (by omega)

theorem measure_cons (n : Node) (ns : List Node) :
    g.measure (n :: ns) = g.measure [n] ++ g.measure ns :=
  g.measure_append [n] ns

theorem measure_newline (ns : List Node) : g.measure (newline :: ns) = g.measure ns := by
  rw [measure_cons, newline, g.measure_blank "\n" (by decide), List.nil_append]

/-! ## Lines -/

theorem slot_gather (ns : List Node) : g.slot (gather ns) = g.measure ns := by
  match ns with
  | [] => rfl
  | [n] => rfl
  | n :: m :: ns => exact g.measure_element containerTag (by decide) _ _

theorem measure_separate : ∀ ns : List Node, g.measure (separate ns) = g.measure ns
  | [] => rfl
  | [n] => rfl
  | n :: m :: ns => by
    rw [separate, measure_cons, measure_newline, measure_separate (m :: ns), ← measure_cons]
    exact List.cons_ne_nil _ _

theorem measure_wrapLoose (ns : List Node) : g.measure (wrapLoose ns) = g.measure ns := by
  cases ns with
  | nil =>
      rw [wrapLoose, measure_newline]
  | cons n ns =>
      rw [wrapLoose, List.cons_append, measure_newline, g.measure_append, measure_separate,
        measure_newline, measure_nil, List.append_nil]
      exact List.cons_ne_nil _ _

theorem measure_ite_newline (p : Prop) [Decidable p] :
    g.measure (if p then [newline] else []) = [] := by
  split
  · rw [measure_newline, measure_nil]
  · exact g.measure_nil

/-! ## List items -/

theorem measure_itemChild (loose opening : Bool) (n : Node) :
    g.measure (itemChild loose opening n) = g.measure [n] := by
  rw [itemChild, g.measure_append, measure_ite_newline, List.nil_append]
  split
  · -- A paragraph of a tight item gives way to what it holds.
    rename_i hparagraph
    cases n with
    | text s => cases hparagraph
    | element t as cs =>
        obtain rfl : t = "p" := by
          simp only [isParagraph, Node.tag?, Bool.and_eq_true] at hparagraph
          simpa using hparagraph.1
        exact (g.measure_element "p" (by decide) as cs).symm
  · rfl

theorem measure_flatMap_itemChild (loose opening : Bool) (ns : List Node) :
    g.measure (ns.flatMap (itemChild loose opening)) = g.measure ns := by
  induction ns with
  | nil => rfl
  | cons n ns ih =>
      rw [List.flatMap_cons, g.measure_append, measure_itemChild, ih, ← measure_cons]

theorem measure_itemContent (loose : Bool) (ns : List Node) :
    g.measure (itemContent loose ns) = g.measure ns := by
  cases ns with
  | nil => rfl
  | cons n ns =>
      rw [itemContent]
      simp only [g.measure_append, measure_ite_newline, List.append_nil]
      rw [measure_itemChild, measure_flatMap_itemChild, ← measure_cons]

theorem measure_checkFront (checked : Bool) (cs : List Node) :
    g.measure (checkFront (checkbox checked) cs) = g.measure cs := by
  have hbox : g.measure [checkbox checked] = [] :=
    (g.measure_element "input" (by decide) _ _).trans g.measure_nil
  cases cs with
  | nil => exact hbox.trans g.measure_nil.symm
  | cons c cs =>
      rw [checkFront, measure_cons, hbox, measure_cons, g.measure_blank " " (by decide),
        List.nil_append, List.nil_append]
      exact List.cons_ne_nil _ _

theorem measure_withCheckbox (checked : Bool) (ns : List Node) :
    g.measure (withCheckbox checked ns) = g.measure ns := by
  unfold withCheckbox
  -- The box goes into the first paragraph, or into one of its own.
  split
  · next as cs rest =>
      rw [measure_cons, g.measure_element "p" (by decide), measure_checkFront,
        measure_cons (n := .element "p" as cs), g.measure_element "p" (by decide)]
  · have hbox : g.measure [checkbox checked] = [] :=
      (g.measure_element "input" (by decide) _ _).trans g.measure_nil
    rw [measure_cons, Node.plain, g.measure_element "p" (by decide), hbox, List.nil_append]

theorem slot_listItem (n : Mdast.Node) (ns : List Node) :
    g.slot (some (listItem n ns)) = g.measure ns := by
  unfold listItem
  cases n.fields.checked with
  | none => exact (g.measure_element "li" (by decide) _ _).trans (g.measure_itemContent _ ns)
  | some checked =>
      refine (g.measure_element "li" (by decide) _ _).trans ?_
      rw [measure_itemContent, measure_withCheckbox]

theorem slot_list (f : Mdast.Fields) (ns : List Node) :
    g.slot (some (list f ns)) = g.measure ns := by
  have helement : ∀ t ∈ ["ol", "ul"], ∀ as,
      g.slot (some (.element t as (wrapLoose ns))) = g.measure ns := by
    intro t ht as
    have hstandard : ∀ t ∈ ["ol", "ul"], t ∈ standardTags := by decide
    exact (g.measure_element t (hstandard t ht) as _).trans (g.measure_wrapLoose ns)
  unfold list
  split
  · split
    · exact helement "ol" (by decide) _
    · exact helement "ol" (by decide) _
  · exact helement "ul" (by decide) _

/-! ## Tables -/

theorem measure_tableSections (rows : List Node) :
    g.measure (tableSections rows) = g.measure rows := by
  have hhead : ∀ n, g.measure [Node.plain "thead" (wrapLoose [n])] = g.measure [n] :=
    fun n => (g.measure_element "thead" (by decide) _ _).trans (g.measure_wrapLoose _)
  match rows with
  | [] => rfl
  | [n] => exact hhead n
  | n :: m :: ns =>
      rw [tableSections, measure_cons, hhead, Node.plain, g.measure_element "tbody" (by decide),
        measure_wrapLoose, ← measure_cons]
      exact List.cons_ne_nil _ _

theorem map_collect_cons (x : Slot) (xs : List Slot) :
    (collect (x :: xs)).map g.measure = (do
      let as ← x.map g.slot
      let bs ← (collect xs).map g.measure
      pure (as ++ bs)) := by
  rw [collect]
  cases x with
  | error e => rfl
  | ok o =>
      cases collect xs with
      | error e => rfl
      | ok ns => exact congrArg Except.ok (g.measure_append _ _)

/-- Slots in a row hold what each of them holds. -/
theorem measure_collect {β : Type} {f : β → List α} {cs : List β} {xs : List Slot}
    (h : List.Forall₂ (fun c x => x.map g.slot = .ok (f c)) cs xs) :
    (collect xs).map g.measure = .ok (cs.flatMap f) := by
  induction h with
  | nil => exact congrArg Except.ok g.measure_nil
  | cons hx _ ih =>
      rw [List.flatMap_cons, map_collect_cons, hx, ih]
      rfl

theorem map_slot {x : Except Error (List Node)} {f : List Node → Node}
    (h : ∀ ns, g.slot (some (f ns)) = g.measure ns) :
    (x.map f).map (fun m => g.slot (some m)) = x.map g.measure := by
  cases x with
  | error e => rfl
  | ok ns => exact congrArg Except.ok (h ns)

theorem slot_row (tag : String) (as : List (Option Align)) (ps : List Part) :
    (row tag as ps).map (fun m => g.slot (some m)) = (collect (cells tag as ps)).map g.measure :=
  g.map_slot fun ns => (g.measure_element "tr" (by decide) _ _).trans (g.measure_wrapLoose ns)

theorem slot_table (f : Mdast.Fields) (ps : List Part) :
    (table f ps).map (fun m => g.slot (some m)) =
      (collect (rowSlots (f.align.getD []) ps)).map g.measure :=
  g.map_slot fun ns => by
    refine (g.measure_element "table" (by decide) _ _).trans ?_
    rw [measure_wrapLoose, measure_tableSections]

/-! ## Standard renderers -/

/-- The kinds of nodes that are rendered by wrapping their content. -/
def wrappers : List Kind :=
  [.root, .paragraph, .heading, .blockquote, .list, .listItem, .tableCell, .footnoteDefinition,
    .emphasis, .strong, .delete, .link, .footnote]

theorem map_slot_output {x : Except Error (List Node)} {f : List Node → Output}
    (h : ∀ ns, (f ns).slot.map g.slot = .ok (g.measure ns)) :
    ((x.map f) >>= Output.slot).map g.slot = x.map g.measure := by
  cases x with
  | error e => rfl
  | ok ns => exact h ns

theorem slot_ofKind {s : Site} {k : Kind} (hk : k ∈ wrappers) :
    (ofKind s k >>= Output.slot).map g.slot = s.content.map g.measure := by
  -- Content stands in an element directly or between line feeds.
  have hplain : ∀ {t as}, t ∈ standardTags →
      ((s.content.map fun cs => .node (.element t as cs)) >>= Output.slot).map g.slot =
        s.content.map g.measure :=
    fun ht => g.map_slot_output fun ns => congrArg Except.ok (g.measure_element _ ht _ ns)
  have hloose : ∀ {t as}, t ∈ standardTags →
      ((s.content.map fun cs => .node (.element t as (wrapLoose cs))) >>= Output.slot).map
        g.slot = s.content.map g.measure :=
    fun ht => g.map_slot_output fun ns =>
      congrArg Except.ok ((g.measure_element _ ht _ _).trans (g.measure_wrapLoose ns))
  cases k with
  | root =>
      exact g.map_slot_output fun ns =>
        congrArg Except.ok ((g.slot_gather _).trans (g.measure_separate ns))
  | paragraph => exact hplain (by decide)
  | heading => exact hplain (headingTag_mem _)
  | blockquote => exact hloose (by decide)
  | list => exact g.map_slot_output fun ns => congrArg Except.ok (g.slot_list _ ns)
  | listItem => exact g.map_slot_output fun ns => congrArg Except.ok (g.slot_listItem _ ns)
  | tableCell => exact hplain (by decide)
  | footnoteDefinition => exact hloose (by decide)
  | emphasis => exact hplain (by decide)
  | strong => exact hplain (by decide)
  | delete => exact hplain (by decide)
  | link => exact hplain (by decide)
  | footnote => exact hplain (by decide)
  | _ => exact absurd hk (by decide)

end Gauge

end Render

end PagePress
