import PagePress.Mdast.Codec
import PagePress.Proofs.Json.Record
import PagePress.Proofs.Mdast.Node

/-!
# Trees as JSON — a tree is read back from what is written for it

* `Fields.written` lists what is written for each standard field, `Node.written` is the object of a
  node; the lemmas about them look up one name at a time;
* `Node.ofJson?_toJson`: a tree is read back if no extra field of its nodes has the name of a
  standard one.
-/

namespace PagePress

namespace Mdast

open Json (ReadsBack)

/-! ## Positions -/

theorem readsBack_point (p : Point) : ReadsBack Point.toJson Point.ofJson? p := by
  refine ⟨nofun, ?_⟩
  unfold Point.toJson Point.ofJson?
  rw [Json.mkObj, Json.record?_ofDict, Option.bind_eq_bind, Option.bind_some]
  rw [Json.Record.required?_of_get? (by simp) (Json.readsBack_nat p.line)]
  rw [Option.bind_eq_bind, Option.bind_some,
    Json.Record.required?_of_get? (by simp) (Json.readsBack_nat p.column)]
  rw [Option.bind_eq_bind, Option.bind_some,
    Json.Record.optional?_of_get? (by simp; rfl) fun n _ => Json.readsBack_nat n]
  rfl

theorem readsBack_position (p : Position) : ReadsBack Position.toJson Position.ofJson? p := by
  refine ⟨nofun, ?_⟩
  have hindent : ∀ ns ∈ p.indent,
      ReadsBack (fun ns => .arr (ns.map Json.ofNat)) (Json.listOf? Json.nat?) ns :=
    fun ns _ => Json.readsBack_list fun _ _ => rfl
  unfold Position.toJson Position.ofJson?
  rw [Json.mkObj, Json.record?_ofDict, Option.bind_eq_bind, Option.bind_some]
  rw [Json.Record.required?_of_get? (by simp) (readsBack_point p.start)]
  rw [Option.bind_eq_bind, Option.bind_some,
    Json.Record.required?_of_get? (by simp) (readsBack_point p.stop)]
  rw [Option.bind_eq_bind, Option.bind_some,
    Json.Record.optional?_of_get? (by simp) hindent]
  rfl

/-! ## Fields -/

theorem ofJson?_align (a : Align) : Align.ofJson? (.str a.name) = some a := by
  cases a <;> rfl

/-- What is written for an alignment or none. -/
theorem ofJson?_columns (c : Option Align) :
    Json.nullable? Align.ofJson? (Json.ofText? (c.map Align.name)) = some c := by
  cases c with
  | none => rfl
  | some a => exact congrArg (Option.map some) (ofJson?_align a)

/-- What is written for the standard fields besides `type` and `children`. -/
def Fields.written (f : Fields) : List (String × Option Json) :=
  [("value", f.value.map .str), ("depth", f.depth.map fun n => .ofNat n.toNat),
    ("ordered", f.ordered.map .bool), ("start", f.start.map .ofNat),
    ("spread", f.spread.map .bool), ("loose", f.loose.map .bool),
    ("checked", f.checked.map .bool),
    ("align", f.align.map fun cols => .arr (cols.map fun c => .ofText? (c.map Align.name))),
    ("lang", f.lang.map .str), ("meta", f.info.map .str),
    ("identifier", f.identifier.map .str), ("label", f.label.map .str),
    ("url", f.url.map .str), ("title", f.title.map .str), ("alt", f.alt.map .str),
    ("referenceType", f.referenceType.map .str), ("position", f.position.map Position.toJson)]

theorem Fields.keys_written (f : Fields) : f.written.map Prod.fst = Fields.names := rfl

theorem Fields.get?_written (f : Fields) {k : String} (hk : k ∉ Fields.names) :
    Entries.get? k f.written = Option.none :=
  Entries.get?_eq_none (f.keys_written ▸ hk)

theorem Fields.entries_eq (f : Fields) :
    f.entries = f.written.flatMap fun e => (e.2.map fun v => (e.1, v)).toList := by
  simp [Fields.entries, Fields.written, Function.comp_def]

theorem Fields.ofEntries?_of_written {es : List (String × Json)} {f : Fields}
    (h : ∀ e ∈ f.written, Entries.get? e.1 es = e.2)
    (hextra : Dict.ofList (es.filter fun e => !Fields.reserved.contains e.1) = f.extra) :
    Fields.ofEntries? es = some f := by
  simp only [Fields.written, List.forall_mem_cons] at h
  obtain ⟨hvalue, hdepth, hordered, hstart, hspread, hloose, hchecked, halign, hlang, hinfo,
    hidentifier, hlabel, hurl, htitle, halt, hreferenceType, hposition, -⟩ := h
  have text {k : String} {v : Option String} (hget : Entries.get? k es = v.map .str) :
      Json.Record.optional? (.named es) 0 k Json.str? = some v :=
    Json.Record.optional?_text hget
  have flag {k : String} {v : Option Bool} (hget : Entries.get? k es = v.map .bool) :
      Json.Record.optional? (.named es) 0 k Json.bool? = some v :=
    Json.Record.optional?_of_get? hget fun b _ => Json.readsBack_bool b
  have depth : Json.Record.optional? (.named es) 0 "depth" Json.byte? = some f.depth :=
    Json.Record.optional?_of_get? hdepth fun n _ => Json.readsBack_byte n
  have start : Json.Record.optional? (.named es) 0 "start" Json.nat? = some f.start :=
    Json.Record.optional?_of_get? hstart fun n _ => Json.readsBack_nat n
  have align : Json.Record.optional? (.named es) 0 "align"
      (Json.listOf? (Json.nullable? Align.ofJson?)) = some f.align :=
    Json.Record.optional?_of_get? halign fun cols _ => Json.readsBack_list fun c _ =>
      ofJson?_columns c
  have position : Json.Record.optional? (.named es) 0 "position" Position.ofJson? =
      some f.position :=
    Json.Record.optional?_of_get? hposition fun p _ => readsBack_position p
  simp only [Fields.ofEntries?, text hvalue, depth, flag hordered, start, flag hspread,
    flag hloose, flag hchecked, align, text hlang, text hinfo, text hidentifier, text hlabel,
    text hurl, text htitle, text halt, text hreferenceType, position, hextra,
    Option.bind_eq_bind, Option.bind_some]

/-! ## Nodes -/

namespace Node

/-- The object of a node whose children are written already. -/
def written (t : String) (f : Fields) (js : List Json) : Dict Json :=
  .ofList ([("type", .str t)] ++ childEntry js ++ f.entries ++ f.extra.entries)

theorem toJson_mk (t : String) (f : Fields) (cs : List Node) :
    (mk t f cs).toJson = .ofDict (written t f (listToJson cs)) := by
  rw [toJson]
  rfl

section

variable {t : String} {f : Fields} {js : List Json} {k : String}

theorem get?_written :
    (written t f js).get? k = (f.extra.get? k).or ((Entries.get? k f.written).join.or
      (if k = "children" then if js = [] then none else some (.arr js)
        else if k = "type" then some (.str t) else none)) := by
  have hnodup : (f.written.map Prod.fst).Nodup := by
    rw [Fields.keys_written]
    decide
  have hchildren : (Dict.ofList (childEntry js)).get? k =
      if k = "children" then if js = [] then none else some (.arr js) else none := by
    cases js <;> simp [childEntry]
  rw [written, Dict.get?_ofList_append, Dict.get?_ofList_append, Dict.get?_ofList_append,
    Dict.ofList_entries, Fields.entries_eq, Dict.get?_ofList_flatMap hnodup, hchildren]
  by_cases hk : k = "children" <;> simp [hk]

/-! The names are apart: each is looked up in one part of the entries. -/

variable (hapart : ∀ e ∈ f.extra.entries, e.1 ∉ Fields.reserved)

theorem get?_written_of_not_mem (hk : k ∉ Fields.reserved) :
    (written t f js).get? k = f.extra.get? k := by
  simp only [Fields.reserved, List.mem_cons, not_or] at hk
  have hnames : Entries.get? k f.written = none := f.get?_written hk.2.2
  simp [get?_written, hnames, hk.1, hk.2.1]

include hapart

theorem get?_extra_of_mem (hk : k ∈ Fields.reserved) : f.extra.get? k = none := by
  cases hget : f.extra.get? k with
  | none => rfl
  | some v => exact absurd hk (hapart (k, v) (Dict.get?_eq_some_iff.1 hget))

theorem get?_written_type : (written t f js).get? "type" = some (.str t) := by
  have hnames : Entries.get? "type" f.written = none := f.get?_written (by decide)
  simp [get?_written, get?_extra_of_mem hapart (by decide : "type" ∈ Fields.reserved), hnames]

theorem get?_written_children :
    (written t f js).get? "children" = if js = [] then none else some (.arr js) := by
  have hnames : Entries.get? "children" f.written = none := f.get?_written (by decide)
  simp [get?_written, get?_extra_of_mem hapart (by decide : "children" ∈ Fields.reserved), hnames]

theorem get?_written_of_mem {e : String × Option Json} (he : e ∈ f.written) :
    (written t f js).get? e.1 = e.2 := by
  have hname : e.1 ∈ Fields.names := f.keys_written ▸ List.mem_map_of_mem he
  have hchildren : e.1 ≠ "children" := by
    intro heq
    exact absurd (heq ▸ hname) (by decide)
  have htype : e.1 ≠ "type" := by
    intro heq
    exact absurd (heq ▸ hname) (by decide)
  have hextra : f.extra.get? e.1 = none :=
    get?_extra_of_mem hapart (List.mem_cons_of_mem _ (List.mem_cons_of_mem _ hname))
  have hget : Entries.get? e.1 f.written = some e.2 := by
    refine (Entries.get?_eq_some_iff ?_).2 he
    rw [Fields.keys_written]
    decide
  simp [get?_written, hextra, hget, hchildren, htype]

end

/-! ### Reading back -/

theorem childrenOf?_eq (es : List (String × Json)) :
    childrenOf? es = match Entries.get? "children" es with
      | none => some []
      | some (.arr xs) => listOfJson? xs
      | some _ => none := by
  refine Json.children_eq_get? ?_ (fun k v rest => ?_) es
  · rw [childrenOf?]
  · exact childrenOf?.eq_def ((k, v) :: rest)

theorem ofEntries?_written {t : String} {f : Fields} {js : List Json}
    (hapart : ∀ e ∈ f.extra.entries, e.1 ∉ Fields.reserved) :
    Fields.ofEntries? (written t f js).entries = some f := by
  refine Fields.ofEntries?_of_written (fun e he => get?_written_of_mem hapart he) ?_
  have hkept : (written t f js).filterKeys (fun k => !Fields.reserved.contains k) = f.extra := by
    refine Dict.ext_get? fun k => ?_
    rw [Dict.get?_filterKeys]
    by_cases hk : k ∈ Fields.reserved
    · simp [hk, get?_extra_of_mem hapart hk]
    · simp [hk, get?_written_of_not_mem hk]
  exact (Dict.ofList_entries ((written t f js).filterKeys _)).trans hkept

mutual

/-- A tree whose extra fields have names of their own is read back. -/
theorem ofJson?_toJson : ∀ {n : Node}, (∀ m ∈ n.walk, m.FieldsApart) → ofJson? n.toJson = some n
  | .mk t f cs, h => by
    -- The object is looked up name by name; only the children need the induction.
    have hapart : ∀ e ∈ f.extra.entries, e.1 ∉ Fields.reserved := h _ (mem_walk_self _)
    have hchildren : listOfJson? (listToJson cs) = some cs :=
      listOfJson?_listToJson fun m hm => h m (by rw [walk]; exact List.mem_cons_of_mem _ hm)
    have htype : (Entries.get? "type" (written t f (listToJson cs)).entries) = some (.str t) :=
      get?_written_type hapart
    have hread : childrenOf? (written t f (listToJson cs)).entries = some cs := by
      rw [childrenOf?_eq]
      exact Json.children_of_get? (by rw [listOfJson?]) (get?_written_children hapart) hchildren
    rw [toJson_mk, Json.ofDict, ofJson?, htype, hread, ofEntries?_written hapart]
    rfl

theorem listOfJson?_listToJson :
    ∀ {ns : List Node}, (∀ m ∈ walkAll ns, m.FieldsApart) → listOfJson? (listToJson ns) = some ns
  | [], _ => by rw [listToJson, listOfJson?]
  | n :: ns, h => by
    have hn : ofJson? n.toJson = some n :=
      ofJson?_toJson fun m hm => h m (by rw [walkAll]; exact List.mem_append_left _ hm)
    have hns : listOfJson? (listToJson ns) = some ns :=
      listOfJson?_listToJson fun m hm => h m (by rw [walkAll]; exact List.mem_append_right _ hm)
    rw [listToJson, listOfJson?, hn, hns]

end

theorem readsBack {n : Node} (h : ∀ m ∈ n.walk, m.FieldsApart) : ReadsBack toJson ofJson? n := by
  refine ⟨?_, ofJson?_toJson h⟩
  cases n
  rw [toJson_mk]
  exact nofun

end Node

end Mdast

end PagePress
