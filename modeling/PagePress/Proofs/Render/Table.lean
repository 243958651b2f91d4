import Mathlib.Data.List.ReduceOption
import PagePress.Proofs.Render.Site

/-!
# Tables — head, body and cells

The rows of a table and the cells of a row are told apart by their places among all rows and cells
of the document.  The head and the body are formed later, of the rows that are there.

* `CellFills` and `RowFills`: what a cell and a row leave in their places;
* `table_fills`: a table is made of what its rows leave, the first of them that leaves anything
  being the head;
* `table_keeps_places`: so the head is the first row of the document unless that leaves nothing;
* `minutes_misplaced`: then a row of data cells is the head.
-/

namespace PagePress

namespace Render

open Mdast (Align)
open View (Node)

/-! ## Places -/

/-- Each node of a list leaves something in its place, in a way that depends on the place. -/
def FillEach (fills : Nat → Mdast.Node → Option Node → Prop) (cs : List Mdast.Node)
    (os : List (Option Node)) : Prop :=
  os.length = cs.length ∧ ∀ i c, cs[i]? = some c → ∃ o, os[i]? = some o ∧ fills i c o

theorem cells_eq_mapIdx (tag : String) (as : List (Option Align)) (ps : List Part) :
    cells tag as ps = ps.mapIdx fun j p =>
      p.slotOr (p.content.map fun cs => some (cell tag as[j]?.join cs)) := by
  induction ps generalizing as with
  | nil => rfl
  | cons p ps ih =>
      rw [cells, ih, List.mapIdx_cons]
      cases as <;> rfl

theorem rowSlots_eq_mapIdx (as : List (Option Align)) (ps : List Part) :
    rowSlots as ps = ps.mapIdx fun i p => rowSlot (if i = 0 then "th" else "td") as p := by
  cases ps with
  | nil => rfl
  | cons p ps =>
      rw [rowSlots, List.mapIdx_cons]
      exact congrArg _ (List.ext_getElem? fun i => by simp)

/-- Nodes are collected if every slot is filled without an error. -/
theorem exists_of_collect {xs : List Slot} {ns : List Node} (h : collect xs = .ok ns) :
    ∃ os : List (Option Node), xs = os.map Except.ok ∧ ns = os.reduceOption := by
  obtain ⟨hfilled, rfl⟩ := collect_eq_ok.1 h
  refine ⟨xs.map fun x => x.toOption.join, ?_, ?_⟩
  · rw [List.map_map]
    refine (List.map_id xs).symm.trans (List.map_congr_left fun x hx => ?_)
    obtain ⟨o, rfl⟩ := hfilled x hx
    rfl
  · rw [List.reduceOption, List.filterMap_map]
    rfl

section

variable (r : Registry) (defs : List (String × Mdast.Node))

/-- What is collected of slots by their places are the nodes that each place holds. -/
theorem fillEach_of_collect {f : Nat → Part → Slot} {fills : Nat → Mdast.Node → Option Node → Prop}
    {cs : List Mdast.Node} {ns : List Node}
    (h : collect ((cs.map (part r defs)).mapIdx f) = .ok ns)
    (hfills : ∀ i, ∀ c ∈ cs, ∀ o, f i (part r defs c) = .ok o → fills i c o) :
    ∃ os, FillEach fills cs os ∧ ns = os.reduceOption := by
  obtain ⟨os, hslots, rfl⟩ := exists_of_collect h
  have hlength := congrArg List.length hslots
  rw [List.length_mapIdx, List.length_map, List.length_map] at hlength
  refine ⟨os, ⟨hlength.symm, fun i c hc => ?_⟩, rfl⟩
  have hslot := congrArg (fun xs => xs[i]?) hslots
  simp only [List.getElem?_mapIdx, List.getElem?_map, hc, Option.map_some] at hslot
  obtain ⟨o, ho, hok⟩ := Option.map_eq_some_iff.1 hslot.symm
  exact ⟨o, ho, hfills i c (List.mem_of_getElem? hc) o hok.symm⟩

/-! ## Cells and rows -/

/-- What a cell leaves in its place: what a matcher makes of it, or an element of the tag around its
content, with the alignment of its column. -/
inductive CellFills (tag : String) (align : Option Align) (c : Mdast.Node) :
    Option Node → Prop where
  | chosen {m : Matcher} {o : Option Node} : r.find? c = some m →
      m.render (site r defs c) >>= Output.slot = .ok o → CellFills tag align c o
  | usual {e : Node} : r.find? c = none → e.tag? = some tag →
      (∀ k, e.attr? k = if k = "align" then align.map Align.name else none) →
      (site r defs c).content = .ok e.children → CellFills tag align c (some e)

/-- What a row leaves in its place: what a matcher makes of it, or a row of what its cells leave. -/
inductive RowFills (tag : String) (as : List (Option Align)) (c : Mdast.Node) :
    Option Node → Prop where
  | chosen {m : Matcher} {o : Option Node} : r.find? c = some m →
      m.render (site r defs c) >>= Output.slot = .ok o → RowFills tag as c o
  | usual {os : List (Option Node)} : r.find? c = none →
      FillEach (fun j => CellFills r defs tag as[j]?.join) c.children os →
      RowFills tag as c (some (.plain "tr" (wrapLoose os.reduceOption)))

theorem attr?_cell (tag : String) (align : Option Align) (cs : List Node) (k : String) :
    (cell tag align cs).attr? k = if k = "align" then align.map Align.name else none := by
  rw [cell, element, Node.attr?, Dict.get?_ofList]
  cases align with
  | none => simp [Entries.get?]
  | some a => rfl

theorem cellFills_of_ok {tag : String} {align : Option Align} {c : Mdast.Node} {o : Option Node}
    (h : (part r defs c).slotOr ((part r defs c).content.map fun cs => some (cell tag align cs)) =
      .ok o) : CellFills r defs tag align c o := by
  cases hfind : r.find? c with
  | some m =>
      rw [Part.slotOr, chosen_of_find?_some defs hfind, Option.getD_some] at h
      exact .chosen hfind h
  | none =>
      rw [Part.slotOr, chosen_of_find?_none defs hfind, Option.getD_none, part_content] at h
      cases hcontent : content c (c.children.map (part r defs)) with
      | error e =>
          rw [hcontent] at h
          cases h
      | ok cs =>
          rw [hcontent] at h
          obtain rfl : some (cell tag align cs) = o := Except.ok.inj h
          exact .usual hfind rfl (attr?_cell tag align cs) hcontent

theorem rowFills_of_ok {tag : String} {as : List (Option Align)} {c : Mdast.Node}
    {o : Option Node} (h : rowSlot tag as (part r defs c) = .ok o) :
    RowFills r defs tag as c o := by
  cases hfind : r.find? c with
  | some m =>
      rw [rowSlot, Part.slotOr, chosen_of_find?_some defs hfind, Option.getD_some] at h
      exact .chosen hfind h
  | none =>
      rw [rowSlot, Part.slotOr, chosen_of_find?_none defs hfind, Option.getD_none, part_parts,
        row, cells_eq_mapIdx] at h
      cases hcollect : collect _ with
      | error e =>
          rw [hcollect] at h
          cases h
      | ok ns =>
          rw [hcollect] at h
          obtain ⟨os, hos, rfl⟩ := fillEach_of_collect r defs hcollect
            fun j d _ o hd => cellFills_of_ok r defs hd
          obtain rfl := Except.ok.inj h
          exact .usual hfind hos

end

/-! ## Sections -/

/-- A section of a table around rows, if there are any. -/
def rowGroup (tag : String) : List Node → List Node
  | [] => []
  | rows => [.plain tag (wrapLoose rows)]

theorem tableSections_eq (rows : List Node) :
    tableSections rows = rowGroup "thead" (rows.take 1) ++ rowGroup "tbody" (rows.drop 1) := by
  rcases rows with _ | ⟨head, _ | ⟨row, body⟩⟩ <;> rfl

/-- The sections of a table with the first of its rows in the head and the others in the body. -/
def sectionsByPlace (os : List (Option Node)) : List Node :=
  rowGroup "thead" (os.take 1).reduceOption ++ rowGroup "tbody" (os.drop 1).reduceOption

/-- Only if the first row leaves nothing and another does, the rows get into other sections than by
their places. -/
theorem tableSections_eq_sectionsByPlace_iff (os : List (Option Node)) :
    wrapLoose (tableSections os.reduceOption) = wrapLoose (sectionsByPlace os) ↔
      (os.head?.join = none → os.reduceOption = []) := by
  rcases os with _ | ⟨_ | head, os⟩
  · exact ⟨fun _ _ => rfl, fun _ => rfl⟩
  · rw [tableSections_eq, sectionsByPlace, List.reduceOption_cons_of_none]
    simp only [List.take_succ_cons, List.take_zero, List.drop_succ_cons, List.drop_zero]
    cases os.reduceOption with
    | nil => exact ⟨fun _ _ => rfl, fun _ => rfl⟩
    | cons row rows =>
        -- Behind the line feed in front, a head stands against a body.
        refine ⟨fun h => ?_, fun h => nomatch h rfl⟩
        have hhead : some "thead" = some "tbody" := by
          cases rows <;> exact congrArg (fun ns => ns[1]?.bind Node.tag?) h
        exact absurd hhead (by decide)
  · rw [tableSections_eq, sectionsByPlace, List.reduceOption_cons_of_some]
    exact ⟨fun _ => nofun, fun _ => rfl⟩

section

variable {r : Registry} {defs : List (String × Mdast.Node)} {n : Mdast.Node} {o : Option Node}

/-- A table that no matcher selects is made of what its rows leave in their places. -/
theorem table_fills (hn : n.kind? = some .table) (hfind : r.find? n = none)
    (h : slot r defs n = .ok o) :
    ∃ os, FillEach (fun i => RowFills r defs (if i = 0 then "th" else "td")
        (n.fields.align.getD [])) n.children os ∧
      o = some (.plain "table" (wrapLoose (tableSections os.reduceOption))) := by
  have hslot : slot r defs n =
      (table n.fields (n.children.map (part r defs))).map some := by
    rw [slot_of_find?_none _ hfind, standard, site_node, hn]
    change (table n.fields (n.children.map (part r defs))).map Output.node >>= Output.slot = _
    cases table n.fields (n.children.map (part r defs)) <;> rfl
  rw [hslot, table, rowSlots_eq_mapIdx] at h
  cases hcollect : collect _ with
  | error e =>
      rw [hcollect] at h
      cases h
  | ok ns =>
      rw [hcollect] at h
      obtain ⟨os, hos, rfl⟩ := fillEach_of_collect r defs hcollect
        fun i c _ o hc => rowFills_of_ok r defs hc
      exact ⟨os, hos, (Except.ok.inj h).symm⟩

/-- A table that no matcher selects, if it is rendered, holds what each of its rows leaves in its
place, in order.  A row or a cell that no matcher selects is made of what it holds, whatever becomes
of the others: the cells are header cells in the first row of the document and data cells in the
others, and they have the alignment of their column there.  The first row that leaves anything is
the head and the others are the body: this is as the rows stand in the document, unless the first
one leaves nothing and another does. -/
theorem table_keeps_places (hn : n.kind? = some .table) (hfind : r.find? n = none)
    (h : slot r defs n = .ok o) :
    ∃ os, FillEach (fun i => RowFills r defs (if i = 0 then "th" else "td")
        (n.fields.align.getD [])) n.children os ∧
      o = some (.plain "table" (wrapLoose (rowGroup "thead" (os.reduceOption.take 1) ++
        rowGroup "tbody" (os.reduceOption.drop 1)))) ∧
      (o = some (.plain "table" (wrapLoose (sectionsByPlace os))) ↔
        (os.head?.join = none → os.reduceOption = [])) := by
  obtain ⟨os, hos, rfl⟩ := table_fills hn hfind h
  refine ⟨os, hos, by rw [tableSections_eq], ?_⟩
  rw [← tableSections_eq_sectionsByPlace_iff]
  exact ⟨fun heq => (Node.element.inj (Option.some.inj heq)).2.2, fun heq => by rw [heq]⟩

end

/-- A row of cells with a text each. -/
def rowOf (texts : List String) : Mdast.Node :=
  .ofKind .tableRow (texts.map fun s => .ofKind .tableCell [.text s])

/-- Rows with an identifier, and cells that say `-`, are left out. -/
def omitting : Registry :=
  [⟨.test fun n => n.fields.identifier.isSome, fun _ => .ok (.nodes [])⟩,
    ⟨.test fun n => n.is .tableCell && n.textContent == "-", fun _ => .ok (.nodes [])⟩]

/-- The row under an identifier. -/
def marked (n : Mdast.Node) : Mdast.Node :=
  n.mapFields fun f => { f with identifier := some "draft" }

/-- A table with an omitted header cell, an omitted row, and fewer alignments than columns. -/
def roster : Mdast.Node :=
  .mk "table" { Mdast.Fields.none with align := some [some .left, some .right] }
    [rowOf ["-", "name", "age"], marked (rowOf ["a", "b"]), rowOf ["x", "y", "z"]]

theorem roster_keeps_places :
    roster.kind? = some .table ∧ omitting.find? roster = none ∧
      ∃ o, slot omitting [] roster = .ok o ∧
        ∃ os, FillEach (fun i => RowFills omitting [] (if i = 0 then "th" else "td")
            [some .left, some .right]) roster.children os ∧
          o = some (.plain "table" (wrapLoose (sectionsByPlace os))) := by
  have hn : roster.kind? = some .table := by decide +kernel
  have hfind : omitting.find? roster = none := rfl
  have hrendered : (slot omitting [] roster).toOption.isSome = true := by decide +kernel
  obtain ⟨o, ho⟩ := Option.isSome_iff_exists.1 hrendered
  have hok := Fallible.eq_ok_of_toOption ho
  obtain ⟨os, hos, -, hplaces⟩ := table_keeps_places hn hfind hok
  refine ⟨hn, hfind, o, hok, os, hos, hplaces.2 fun hnone => ?_⟩
  -- No matcher selects the first row, so that it leaves itself.
  obtain ⟨x, hx, hfills⟩ := hos.2 0 (rowOf ["-", "name", "age"]) rfl
  rw [List.head?_eq_getElem?, hx] at hnone
  cases hfills with
  | chosen hm _ => cases hm
  | usual _ _ => cases hnone

/-- A table whose first row is left out. -/
def minutes : Mdast.Node :=
  .ofKind .table [marked (rowOf ["draft"]), rowOf ["a"]]

/-- A row of data cells gets into the head, where no row of the document is left. -/
theorem minutes_misplaced :
    minutes.kind? = some .table ∧ omitting.find? minutes = none ∧
      slot omitting [] minutes = .ok (some (.plain "table" (wrapLoose
        [.plain "thead" (wrapLoose
          [.plain "tr" (wrapLoose [.plain "td" [.text "a"]])])]))) ∧
      ¬ ∃ os, FillEach (fun i => RowFills omitting [] (if i = 0 then "th" else "td") [])
          minutes.children os ∧
        slot omitting [] minutes =
          .ok (some (.plain "table" (wrapLoose (sectionsByPlace os)))) := by
  have hslot : slot omitting [] minutes = .ok (some (.plain "table" (wrapLoose
      [.plain "thead" (wrapLoose [.plain "tr" (wrapLoose [.plain "td" [.text "a"]])])]))) :=
    Fallible.eq_ok_of_toOption (by decide +kernel)
  refine ⟨by decide +kernel, rfl, hslot, ?_⟩
  rintro ⟨os, hos, heq⟩
  rw [hslot] at heq
  have hhead := congrArg (fun ns => ns[1]?.bind Node.tag?)
    (Node.element.inj (Option.some.inj (Except.ok.inj heq))).2.2
  -- The first row leaves nothing, and so nothing gets into the head by its place.
  obtain ⟨x, hx, hfills⟩ := hos.2 0 (marked (rowOf ["draft"])) rfl
  obtain rfl : x = none := by
    cases hfills with
    | chosen hm ho =>
        obtain rfl := Option.some.inj hm
        exact (Except.ok.inj ho).symm
    | usual hm _ => cases hm
  cases os with
  | nil => cases hx
  | cons y os =>
      obtain rfl : y = none := Option.some.inj hx
      rw [sectionsByPlace, List.take_succ_cons, List.take_zero, List.drop_succ_cons,
        List.drop_zero] at hhead
      cases hrows : os.reduceOption with
      | nil =>
          rw [hrows] at hhead
          cases hhead
      | cons row rows =>
          rw [hrows] at hhead
          have hsame : some "thead" = some "tbody" := hhead
          exact absurd hsame (by decide)

end Render

end PagePress
