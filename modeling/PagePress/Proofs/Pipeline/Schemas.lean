import PagePress.Pipeline.Validator
import PagePress.Proofs.Mdast.Node
import PagePress.Proofs.Schema.Accepts
import PagePress.Proofs.Text.Ascii

/-!
# Valid states and contexts

The schemas of this library are read against the JSON of the data they are about, from the points
of a document up to whole states and contexts.

* `accepts_node_iff`, `accepts_part_iff`, `accepts_view_iff`, `accepts_response_iff`: what is asked
  of the parts of a state;
* `accepts_state_iff`: a state is valid if and only if it is `State.Conforming`;
* `accepts_context_iff`: a context is valid if and only if its names are in order.
-/

namespace PagePress

namespace Pipeline

open Schema (Kind Keyword Pattern Accepts accepts_all accepts_type accepts_enum accepts_minimum
  accepts_maximum accepts_items accepts_required accepts_properties accepts_others
  accepts_noOthers accepts_oneOf_left accepts_oneOf_right)

variable {p : Schema.Place}

/-! ## Fields -/

theorem forall_mem_field {α β : Type} {o : Option α} {k : String} {g : α → β}
    {P : String × β → Prop} :
    (∀ e ∈ (o.map fun a => (k, g a)).toList, P e) ↔ ∀ a ∈ o, P (k, g a) := by
  cases o <;> simp

theorem forall_mem_listField {js : List Json} {k : String} {P : String × Json → Prop} :
    (∀ e ∈ listFieldOf k js, P e) ↔ (js ≠ [] → P (k, .arr js)) := by
  cases js <;> simp [listFieldOf]

/-- The keys of entries are among names, in the same order. -/
def Named (es : List (String × Json)) (names : List String) : Prop :=
  (es.map Prod.fst).Sublist names

theorem Named.append {es fs : List (String × Json)} {ks ls : List String} (h : Named es ks)
    (h' : Named fs ls) : Named (es ++ fs) (ks ++ ls) := by
  rw [Named, List.map_append]
  exact List.Sublist.append h h'

theorem named_field {α : Type} (o : Option α) (k : String) (g : α → Json) :
    Named (o.map fun a => (k, g a)).toList [k] := by
  cases o <;> simp [Named]

theorem named_listField (k : String) (js : List Json) : Named (listFieldOf k js) [k] := by
  cases js <;> simp [Named, listFieldOf]

/-! ## Common parts -/

theorem accepts_typed {k : Kind} {j : Json} :
    Accepts p (Schemas.typed k) j ↔ k.covers j = true := by
  simp [Schemas.typed, accepts_all, accepts_type]

@[simp]
theorem covers_str (s : String) : Kind.covers .string (.str s) = true := rfl

@[simp]
theorem covers_bool (b : Bool) : Kind.covers .boolean (.bool b) = true := rfl

@[simp]
theorem covers_arr (js : List Json) : Kind.covers .array (.arr js) = true := rfl

@[simp]
theorem covers_ofDict (d : Dict Json) : Kind.covers .object (.ofDict d) = true := rfl

@[simp]
theorem covers_int (n : Int) : Kind.covers .integer (.int n) = true := by
  simp [Kind.covers, Json.quotient?, Json.Quotient.isWhole]

theorem accepts_atLeast {n m : Int} : Accepts p (Schemas.atLeast n) (.int m) ↔ n ≤ m := by
  simp [Schemas.atLeast, accepts_all, accepts_type, accepts_minimum]

theorem accepts_between {low high m : Int} :
    Accepts p (Schemas.between low high) (.int m) ↔ low ≤ m ∧ m ≤ high := by
  simp [Schemas.between, accepts_all, accepts_type, accepts_minimum, accepts_maximum,
    and_comm]

/-- A list of encoded values is accepted if the values are. -/
theorem accepts_list {α : Type} {s : Schema} {f : α → Json} {P : α → Prop} {xs : List α}
    (h : ∀ q, ∀ x ∈ xs, Accepts q s (f x) ↔ P x) :
    Accepts p (.all [.items 0 s, .type [.array]]) (.arr (xs.map f)) ↔ ∀ x ∈ xs, P x := by
  simp [accepts_all, accepts_type, accepts_items h]

/-- A list that is written unless it is empty is accepted if the values are. -/
theorem accepts_listField {α : Type} {s : Schema} {f : α → Json} {P : α → Prop} {xs : List α}
    (h : ∀ q, ∀ x ∈ xs, Accepts q s (f x) ↔ P x) :
    (¬ xs = [] → Accepts p (.all [.items 0 s, .type [.array]]) (.arr (xs.map f))) ↔
      ∀ x ∈ xs, P x := by
  rw [accepts_list h]
  cases xs <;> simp

theorem accepts_texts (ss : List String) : Accepts p Schemas.texts (.arr (ss.map .str)) := by
  rw [Schemas.texts, accepts_list (P := fun _ => True) (by simp [accepts_typed])]
  simp

theorem accepts_textOrNull (s : String) : Accepts p Schemas.textOrNull (.str s) := by
  simp [Schemas.textOrNull, accepts_all, accepts_type]

theorem accepts_textFields (d : Dict String) : Accepts p Schemas.textFields (.ofTexts d) := by
  have hothers : (Keyword.others [] [] (Schemas.typed .string)).Accepts p (.ofTexts d) := by
    simp only [Json.ofTexts, Dict.mapValues, accepts_others, List.forall_mem_map]
    exact fun e _ => accepts_typed.2 rfl
  have hobject : Kind.covers .object (.ofTexts d) = true := rfl
  simp [Schemas.textFields, accepts_all, accepts_type, hothers, hobject]

theorem get?_mkObj {es : List (String × Json)} (h : (es.map Prod.fst).Nodup) {k : String}
    {v : Json} : Entries.get? k (Dict.ofList es).entries = some v ↔ (k, v) ∈ es := by
  rw [Entries.get?_eq_some_iff (Dict.ofList es).nodup_keys, Dict.mem_ofList_iff h]

/-- Fields with names outside a list are accepted by schemas for names of the list. -/
theorem foreign_accepted {named : List (String × Schema)} {names : List String}
    {es : List (String × Json)} (hnamed : ∀ n ∈ named.map Prod.fst, n ∈ names)
    (h : ∀ e ∈ es, e.1 ∉ names) :
    ∀ e ∈ es, ∀ s, Entries.get? e.1 named = some s → Accepts (e.1 :: p) s e.2 := by
  intro e he s hs
  rw [Entries.get?_eq_none fun hmem => h e he (hnamed e.1 hmem)] at hs
  cases hs

/-- The fields that a schema for properties names are accepted by their schemas. -/
theorem accepts_properties_mkObj {named : List (String × Schema)} {es : List (String × Json)}
    (hnamed : (named.map Prod.fst).Nodup) (hes : (es.map Prod.fst).Nodup) :
    (Keyword.properties named).Accepts p (.mkObj es) ↔
      ∀ e ∈ es, ∀ s, Entries.get? e.1 named = some s → Accepts (e.1 :: p) s e.2 := by
  rw [Json.mkObj, Json.ofDict, accepts_properties]
  simp only [get?_mkObj hes, Entries.get?_eq_some_iff hnamed]
  constructor
  · intro h e he s hs
    exact h (e.1, s) hs e.2 he
  · intro h n hn v hv
    exact h (n.1, v) hv n.2 hn

theorem accepts_object_mkObj (es : List (String × Json)) :
    (Keyword.type [.object]).Accepts p (.mkObj es) :=
  accepts_type.2 ⟨.object, by simp, rfl⟩

/-- A record is accepted if its fields are, one of which has to be there. -/
theorem accepts_tagged {named : List (String × Schema)} {es : List (String × Json)} {k : String}
    {v : Json} (hnamed : (named.map Prod.fst).Nodup) (hes : (es.map Prod.fst).Nodup)
    (h : (k, v) ∈ es) :
    Accepts p (.all [.properties named, .required [k], .type [.object]]) (.mkObj es) ↔
      ∀ e ∈ es, ∀ s, Entries.get? e.1 named = some s → Accepts (e.1 :: p) s e.2 := by
  have hrequired : (Keyword.required [k]).Accepts p (.mkObj es) := by
    have hget : Entries.get? k (Dict.ofList es).entries = some v := (get?_mkObj hes).2 h
    simp [Json.mkObj, Json.ofDict, accepts_required, hget]
  simp only [accepts_all, List.forall_mem_cons, accepts_properties_mkObj hnamed hes, hrequired,
    accepts_object_mkObj]
  simp

theorem accepts_record {named : List (String × Schema)} {es : List (String × Json)}
    (hnamed : (named.map Prod.fst).Nodup) (hes : (es.map Prod.fst).Nodup) :
    Accepts p (Schemas.record named) (.mkObj es) ↔
      ∀ e ∈ es, ∀ s, Entries.get? e.1 named = some s → Accepts (e.1 :: p) s e.2 := by
  simp only [Schemas.record, accepts_all, List.forall_mem_cons, accepts_properties_mkObj hnamed hes,
    accepts_object_mkObj]
  simp

/-- The fields of a record without others are accepted by the schemas of their names. -/
theorem accepts_closed {named : List (String × Schema)} {es : List (String × Json)}
    (hes : (es.map Prod.fst).Nodup) :
    Accepts p (Schemas.closed named) (.mkObj es) ↔
      ∀ e ∈ es, ∃ s, Entries.get? e.1 named = some s ∧ Accepts (e.1 :: p) s e.2 := by
  simp only [Schemas.closed, accepts_all, List.forall_mem_cons, Json.mkObj, Json.ofDict,
    accepts_noOthers, accepts_type, Dict.mem_ofList_iff hes]
  simp only [List.not_mem_nil, false_and, exists_false, or_false, false_implies, implies_true,
    and_true, Option.isSome_iff_exists, Kind.covers, List.mem_singleton, exists_eq_left]
  refine forall_congr' fun e => forall_congr' fun _ => ?_
  constructor
  · rintro ⟨⟨s, hs⟩, h⟩
    exact ⟨s, hs, h s hs⟩
  · rintro ⟨s, hs, h⟩
    refine ⟨⟨s, hs⟩, fun s' hs' => ?_⟩
    rw [hs] at hs'
    cases hs'
    exact h

/-! ## Documents -/

theorem accepts_point_iff {x : Mdast.Point} :
    Accepts p Schemas.point x.toJson ↔ x.Conforms := by
  have hnamed : Named ([("line", Json.ofNat x.line), ("column", Json.ofNat x.column)]
      ++ (x.offset.map fun n => ("offset", Json.ofNat n)).toList) ["line", "column", "offset"] :=
    Named.append (.refl _) (named_field ..)
  rw [Schemas.point, Mdast.Point.toJson, accepts_record (by decide) (hnamed.nodup (by decide))]
  refine Iff.trans (b := (1 : Int) ≤ x.line ∧ (1 : Int) ≤ x.column) ?_ ⟨?_, ?_⟩
  · simp only [List.forall_mem_append, forall_mem_field, List.forall_mem_cons]
    simp [Entries.get?, Json.ofNat, accepts_atLeast]
  · rintro ⟨hline, hcolumn⟩
    exact ⟨by omega, by omega⟩
  · rintro ⟨hline, hcolumn⟩
    exact ⟨by omega, by omega⟩

theorem accepts_position_iff {x : Mdast.Position} :
    Accepts p Schemas.position x.toJson ↔ x.Conforms := by
  have hnamed : Named ([("start", x.start.toJson), ("end", x.stop.toJson)]
      ++ (x.indent.map fun ns => ("indent", Json.arr (ns.map Json.ofNat))).toList)
      ["start", "end", "indent"] :=
    Named.append (.refl _) (named_field ..)
  rw [Schemas.position, Mdast.Position.toJson,
    accepts_record (by decide) (hnamed.nodup (by decide))]
  simp only [List.forall_mem_append, forall_mem_field, List.forall_mem_cons]
  simp [Entries.get?, accepts_typed, accepts_point_iff, Mdast.Position.Conforms]

theorem accepts_nodeType_iff {t : String} :
    Accepts p Schemas.nodeType (.str t) ↔ (Mdast.Kind.ofName? t).isSome = true := by
  rw [Mdast.Kind.ofName?, List.find?_isSome, Schemas.nodeType, accepts_all]
  simp only [List.forall_mem_cons, accepts_enum, accepts_type]
  constructor
  · rintro ⟨⟨v, hv, hsame⟩, -⟩
    obtain ⟨k, hk, rfl⟩ := List.mem_map.1 hv
    have hname : t = k.name := by simpa [Json.same] using hsame
    exact ⟨k, hk, by simp [hname]⟩
  · rintro ⟨k, hk, hname⟩
    obtain rfl : k.name = t := by simpa using hname
    exact ⟨⟨_, List.mem_map_of_mem hk, by simp [Json.same]⟩, by simp, by simp⟩

theorem accepts_alignment (cols : List (Option Mdast.Align)) :
    Accepts p Schemas.alignment
      (.arr (cols.map fun c => Json.ofText? (c.map Mdast.Align.name))) := by
  rw [Schemas.alignment, accepts_list (P := fun _ => True)]
  · simp
  · intro q c _
    rw [accepts_all, iff_true, List.forall_mem_singleton, accepts_enum]
    rcases c with _ | _ | _ | _ <;> simp <;> decide

theorem covers_object_toJson (n : Mdast.Node) : Kind.covers .object n.toJson = true := by
  cases n
  rw [Mdast.Node.toJson]
  rfl

theorem named_fields (f : Mdast.Fields) : Named f.entries Mdast.Fields.names := by
  unfold Mdast.Fields.entries
  exact ((((((((((((((((named_field ..).append (named_field ..)).append (named_field ..)).append
    (named_field ..)).append (named_field ..)).append (named_field ..)).append
    (named_field ..)).append (named_field ..)).append (named_field ..)).append
    (named_field ..)).append (named_field ..)).append (named_field ..)).append
    (named_field ..)).append (named_field ..)).append (named_field ..)).append
    (named_field ..)).append (named_field ..)

theorem named_childEntry (js : List Json) : Named (Mdast.Node.childEntry js) ["children"] := by
  cases js <;> simp [Named, Mdast.Node.childEntry]

theorem forall_mem_childEntry {js : List Json} {P : String × Json → Prop} :
    (∀ e ∈ Mdast.Node.childEntry js, P e) ↔ (js ≠ [] → P ("children", .arr js)) := by
  cases js <;> simp [Mdast.Node.childEntry]

/-- A node whose extra fields have names of their own is valid if it conforms. -/
theorem accepts_node_iff {n : Mdast.Node}
    (hextra : n.FieldsApart) :
    Accepts p Schemas.node n.toJson ↔ n.Conforms := by
  obtain ⟨t, f, cs⟩ := n
  -- The schema asks of a child no more than that it is an object, so no induction is needed.
  have hchildren : ∀ q, Accepts q (.all [.items 0 (Schemas.typed .object), .type [.array]])
      (.arr (Mdast.Node.listToJson cs)) := by
    intro q
    rw [Mdast.Node.listToJson_eq_map, accepts_list (P := fun _ => True)
      (by simp [accepts_typed, covers_object_toJson])]
    simp
  have htype : Named [("type", Json.str t)] ["type"] := .refl _
  have hnamed := (htype.append (named_childEntry (Mdast.Node.listToJson cs))).append
    (named_fields f)
  have hnodup : (([("type", Json.str t)] ++ Mdast.Node.childEntry (Mdast.Node.listToJson cs)
      ++ f.entries ++ f.extra.entries).map Prod.fst).Nodup := by
    rw [List.map_append, List.nodup_append]
    refine ⟨hnamed.nodup (by decide), f.extra.nodup_keys, ?_⟩
    intro k hk l hl
    obtain ⟨e, he, rfl⟩ := List.mem_map.1 hl
    rintro rfl
    exact hextra e he (hnamed.subset hk)
  rw [Mdast.Node.toJson, Schemas.node, accepts_tagged (v := .str t) (by decide) hnodup (by simp),
    List.forall_mem_append]
  -- No schema names an extra field, so only the fields of the record itself are left.
  refine (and_iff_left (foreign_accepted (by decide) hextra)).trans ?_
  refine Iff.trans (b := (Mdast.Kind.ofName? t).isSome = true ∧
    (∀ d ∈ f.depth, (1 : Int) ≤ d.toNat ∧ (d.toNat : Int) ≤ 6) ∧
    ∀ x ∈ f.position, x.Conforms) ?_ ⟨?_, ?_⟩
  · simp only [Mdast.Fields.entries, List.forall_mem_append, forall_mem_field,
      forall_mem_childEntry, List.forall_mem_cons]
    simp [Entries.get?, accepts_typed, accepts_textOrNull, accepts_between, accepts_position_iff,
      accepts_alignment, hchildren, accepts_nodeType_iff, Json.ofNat]
  · rintro ⟨hkind, hdepth, hposition⟩
    exact ⟨hkind, fun d hd => by have := hdepth d hd; omega, hposition⟩
  · rintro ⟨hkind, hdepth, hposition⟩
    exact ⟨hkind, fun d hd => by have := hdepth d hd; omega, hposition⟩

/-! ## Sections -/

/-- What is asked of a section. -/
structure SectionConforms (s : Section) : Prop where
  children : ∀ n ∈ s.children, n.Conforms
  position : ∀ x ∈ s.position, x.Conforms

theorem accepts_part_iff {s : Section} (hextra : ∀ n ∈ s.children, n.FieldsApart) :
    Accepts p Schemas.part s.toJson ↔ SectionConforms s := by
  have hchildren : ∀ q, (¬ s.children = [] →
      Accepts q (.all [.items 0 Schemas.node, .type [.array]])
        (.arr (s.children.map Mdast.Node.toJson))) ↔ ∀ n ∈ s.children, n.Conforms :=
    fun q => accepts_listField fun q n hn => accepts_node_iff (hextra n hn)
  have hnamed : Named (listFieldOf "types" (s.types.map .str)
      ++ listFieldOf "children" (Mdast.Node.listToJson s.children)
      ++ fieldOf "position" (s.position.map Mdast.Position.toJson)
      ++ fieldOf "meta" (s.metadata.map .ofDict)
      ++ textFieldOf "title" s.title
      ++ textFieldOf "intro" s.intro
      ++ textFieldOf "image" s.image) Section.names :=
    ((((((named_listField ..).append (named_listField ..)).append (named_field ..)).append
      (named_field ..)).append (named_field ..)).append (named_field ..)).append (named_field ..)
  rw [Schemas.part, Section.toJson, accepts_record (by decide) (hnamed.nodup (by decide))]
  refine Iff.trans (b := (∀ n ∈ s.children, n.Conforms) ∧
    ∀ x ∈ s.position, x.Conforms) ?_ ⟨?_, ?_⟩
  · simp only [textFieldOf, fieldOf, List.forall_mem_append, forall_mem_field, forall_mem_listField]
    simp [Entries.get?, accepts_typed, accepts_texts, accepts_position_iff,
      Mdast.Node.listToJson_eq_map, hchildren]
  · rintro ⟨hnodes, hposition⟩
    exact ⟨hnodes, hposition⟩
  · rintro ⟨hnodes, hposition⟩
    exact ⟨hnodes, hposition⟩

/-! ## View trees -/

theorem named_unless (c : Bool) (k : String) (v : Json) :
    Named (if c then [] else [(k, v)]) [k] := by
  cases c <;> simp [Named]

theorem forall_mem_unless {c : Bool} {k : String} {v : Json} {P : String × Json → Prop} :
    (∀ e ∈ if c then [] else [(k, v)], P e) ↔ (c = false → P (k, v)) := by
  cases c <;> simp

/-- A view node is valid at the top of a document if it is an element. -/
theorem accepts_view_iff {n : View.Node} :
    Accepts p Schemas.view n.toJson ↔ n.isElement = true := by
  cases n with
  | text s =>
      rw [View.Node.toJson, Schemas.view, accepts_all]
      simp [accepts_type, Kind.covers, View.Node.isElement]
  | element t as cs =>
      have htag : Named [("tag", Json.str t)] ["tag"] := .refl _
      have hnamed := (htag.append (named_unless as.isEmpty "attrs" (.ofTexts as))).append
        (named_unless (View.Node.listToJson cs).isEmpty "children"
          (.arr (View.Node.listToJson cs)))
      rw [View.Node.toJson, View.Node.elementEntries, Schemas.view,
        accepts_tagged (v := .str t) (by decide) (hnamed.nodup (by decide)) (by simp)]
      simp only [List.forall_mem_append, forall_mem_unless, List.forall_mem_cons]
      simp [Entries.get?, accepts_typed, accepts_textFields, View.Node.isElement]

/-! ## Content -/

/-- What is asked of content. -/
structure ContentConforms (c : Content) : Prop where
  mdast : ∀ n ∈ c.mdast, n.Conforms
  sections : ∀ s ∈ c.sections, SectionConforms s
  document : ∀ n ∈ c.document, n.isElement = true

/-- The extra fields of the nodes that are looked at have names of their own. -/
structure ContentApart (c : Content) : Prop where
  mdast : ∀ n ∈ c.mdast, n.FieldsApart
  sections : ∀ s ∈ c.sections, ∀ n ∈ s.children, n.FieldsApart

theorem named_content (c : Content) :
    Named (listFieldOf "sources" (c.sources.map .str)
      ++ textFieldOf "body" c.body
      ++ fieldOf "mdast" (c.mdast.map Mdast.Node.toJson)
      ++ listFieldOf "sections" (c.sections.map Section.toJson)
      ++ fieldOf "document" (c.document.map View.Node.toJson)
      ++ textFieldOf "html" c.html
      ++ listFieldOf "children" (c.children.map .str)
      ++ fieldOf "meta" (c.metadata.map .ofDict)
      ++ textFieldOf "title" c.title
      ++ textFieldOf "intro" c.intro
      ++ textFieldOf "image" c.image) Content.names :=
  ((((((((((named_listField ..).append (named_field ..)).append (named_field ..)).append
    (named_listField ..)).append (named_field ..)).append (named_field ..)).append
    (named_listField ..)).append (named_field ..)).append (named_field ..)).append
    (named_field ..)).append (named_field ..)

theorem accepts_content_iff {c : Content} (h : ContentApart c) :
    Accepts p Schemas.content c.toJson ↔ ContentConforms c := by
  have hsections : ∀ q, (¬ c.sections = [] →
      Accepts q (.all [.items 0 Schemas.part, .type [.array]])
        (.arr (c.sections.map Section.toJson))) ↔ ∀ s ∈ c.sections, SectionConforms s :=
    fun q => accepts_listField fun q s hs => accepts_part_iff (h.sections s hs)
  have hmdast : ∀ q, (∀ n, c.mdast = some n → Accepts q Schemas.node n.toJson) ↔
      ∀ n, c.mdast = some n → n.Conforms :=
    fun q => forall₂_congr fun n hn => accepts_node_iff (h.mdast n hn)
  rw [Schemas.content, Content.toJson, accepts_closed ((named_content c).nodup (by decide))]
  refine Iff.trans (b := ((∀ n ∈ c.mdast, n.Conforms) ∧
    (∀ s ∈ c.sections, SectionConforms s) ∧ ∀ n ∈ c.document, n.isElement = true)) ?_ ⟨?_, ?_⟩
  · simp only [textFieldOf, fieldOf, List.forall_mem_append, forall_mem_field, forall_mem_listField]
    simp [Entries.get?, accepts_typed, accepts_texts, accepts_view_iff, hsections, hmdast,
      and_assoc]
  · rintro ⟨hnode, hsection, hdocument⟩
    exact ⟨hnode, hsection, hdocument⟩
  · rintro ⟨hnode, hsection, hdocument⟩
    exact ⟨hnode, hsection, hdocument⟩

/-! ## Requests and responses -/

theorem not_accepts_texts_str (s : String) : ¬ Accepts p Schemas.texts (.str s) := by
  simp [Schemas.texts, accepts_all, accepts_type, Kind.covers]

theorem accepts_param (x : Param) :
    Accepts p (.all [.oneOf [Schemas.typed .string, Schemas.texts]]) x.toJson := by
  rw [accepts_all, List.forall_mem_singleton]
  cases x with
  | single s =>
      exact accepts_oneOf_left (accepts_typed.2 (covers_str s)) (not_accepts_texts_str s)
  | multiple ss =>
      exact accepts_oneOf_right (fun h => by cases accepts_typed.1 h) (accepts_texts ss)

/-- Every request is valid. -/
theorem accepts_request (r : Request) : Accepts p Schemas.request r.toJson := by
  have hparams : ∀ q, Accepts q
      (.all [.others [] [] (.all [.oneOf [Schemas.typed .string, Schemas.texts]]),
        .type [.object]]) (.ofDict (r.params.mapValues Param.toJson)) := by
    intro q
    rw [accepts_all]
    simp only [List.forall_mem_cons, accepts_type, Json.ofDict,
      accepts_others, Dict.mapValues, List.forall_mem_map]
    exact ⟨fun e _ => accepts_param e.2, ⟨.object, by simp, rfl⟩, by simp⟩
  rw [Schemas.request, Request.toJson, accepts_closed (by simp)]
  simp [Entries.get?, hparams]

/-- A response is valid if its status, if it has one, is between 100 and 599. -/
theorem accepts_response_iff {r : Response} :
    Accepts p Schemas.response r.toJson ↔ ∀ n ∈ r.status, 100 ≤ n.toNat ∧ n.toNat ≤ 599 := by
  have hheaders : Named [("headers", Json.ofTexts r.headers)] ["headers"] := .refl _
  have hnamed : Named (fieldOf "status" (r.status.map fun n => .ofNat n.toNat)
      ++ fieldOf "body" r.body ++ [("headers", Json.ofTexts r.headers)])
      ["status", "body", "headers"] :=
    ((named_field ..).append (named_field ..)).append hheaders
  have hbody : ∀ q j, Accepts q (.all []) j := fun q j => accepts_all.2 (by simp)
  rw [Schemas.response, Response.toJson, accepts_closed (hnamed.nodup (by decide))]
  refine Iff.trans (b := ∀ n ∈ r.status, (100 : Int) ≤ n.toNat ∧ (n.toNat : Int) ≤ 599)
    ?_ ⟨?_, ?_⟩
  · simp only [fieldOf, List.forall_mem_append, forall_mem_field, List.forall_mem_cons]
    simp [Entries.get?, accepts_between, accepts_textFields, hbody, Json.ofNat]
  · intro h n hn
    have := h n hn
    omega
  · intro h n hn
    have := h n hn
    omega

/-! ## States -/

/-- What is asked of a state. -/
structure StateConforms (s : State) : Prop where
  content : ContentConforms s.content
  status : ∀ n ∈ s.response.status, 100 ≤ n.toNat ∧ n.toNat ≤ 599

/-- A state is valid if its content is, and if its status, if it has one, is one of a response. -/
theorem accepts_state_parts {s : State} :
    Accepts p Schemas.state s.toJson ↔
      Accepts ("content" :: p) Schemas.content s.content.toJson ∧
        ∀ n ∈ s.response.status, 100 ≤ n.toNat ∧ n.toNat ≤ 599 := by
  have hrest : Named [("request", s.request.toJson), ("content", s.content.toJson),
      ("response", s.response.toJson)] ["request", "content", "response"] := .refl _
  have hnamed : Named (textFieldOf "error" s.error ++ [("request", s.request.toJson),
      ("content", s.content.toJson), ("response", s.response.toJson)])
      ["error", "request", "content", "response"] :=
    (named_field ..).append hrest
  rw [Schemas.state, State.toJson, accepts_closed (hnamed.nodup (by decide))]
  simp only [textFieldOf, fieldOf, List.forall_mem_append, forall_mem_field, List.forall_mem_cons]
  simp [Entries.get?, accepts_typed, accepts_request, accepts_response_iff]

/-- A state is valid if and only if it conforms. -/
theorem accepts_state_iff {s : State} (h : ContentApart s.content) :
    Accepts p Schemas.state s.toJson ↔ StateConforms s := by
  rw [accepts_state_parts, accepts_content_iff h]
  constructor
  · rintro ⟨hcontent, hstatus⟩
    exact ⟨hcontent, hstatus⟩
  · rintro ⟨hcontent, hstatus⟩
    exact ⟨hcontent, hstatus⟩

/-! ## Contexts -/

/-- A capital letter, a digit or a low line. -/
def isSecretChar (c : Char) : Bool := c.isUpper || c.isDigit || c = '_'

/-- What is asked of the name of a secret. -/
def IsSecretName (k : String) : Prop := k ≠ "" ∧ ∀ c ∈ k.toList, isSecretChar c = true

theorem found_secretName_iff {k : String} :
    Schemas.secretName.regex.found k = true ↔ IsSecretName k := by
  have hmem : ∀ c, CharSet.mem c
      (.union (.union (.union .none (.range 'A' 'Z')) (.range '0' '9')) (.single '_')) =
        isSecretChar c := by
    intro c
    rw [Bool.eq_iff_iff]
    simp [CharSet.mem, CharSet.single, isSecretChar, Text.isUpper_iff, Char.isDigit_iff_toNat,
      Char.ext_iff, UInt32.le_iff_toNat_le, ← UInt32.toNat_inj]
    omega
  have hfound := Regex.found_entire (s :=
    .union (.union (.union .none (.range 'A' 'Z')) (.range '0' '9')) (.single '_')) k
  simp only [hmem] at hfound
  exact hfound

/-- What is asked of a context: no open parameter has a name with a meaning of its own, and every
secret has a name of capital letters, digits and low lines. -/
structure ContextConforms (c : Context) : Prop where
  params : ∀ e ∈ c.params.extra.entries, e.1 ∉ RawParams.names
  secrets : ∀ e ∈ c.secrets.extra.entries, IsSecretName e.1

/-- What the schema for contexts asks: no open parameter is taken for the headers, and every
secret but the one with a name of its own has a name of capital letters, digits and low lines. -/
structure ContextValid (c : Context) : Prop where
  headers : ∀ e ∈ c.params.extra.entries, e.1 ≠ "__ow_headers"
  secrets : ∀ e ∈ c.secrets.extra.entries, e.1 ≠ rawRootKey → IsSecretName e.1

theorem ContextConforms.valid {c : Context} (h : ContextConforms c) : ContextValid c where
  headers := by
    intro e he hname
    refine h.params e he ?_
    rw [hname]
    decide
  secrets := fun e he _ => h.secrets e he

theorem accepts_typed_str {k : Kind} {s : String} :
    Accepts p (Schemas.typed k) (.str s) ↔ k = .string := by
  rw [accepts_typed]
  cases k <;> simp [Kind.covers, Json.quotient?]

/-- Open entries come last, so all of them are written, whatever stands before them. -/
theorem mem_mkObj_texts (es : List (String × Json)) {d : Dict String} {e : String × String}
    (he : e ∈ d.entries) :
    (e.1, .str e.2) ∈ (Dict.ofList (es ++ d.entries.map fun e => (e.1, Json.str e.2))).entries := by
  refine Dict.mem_ofList_append_right ?_ (List.mem_map_of_mem he)
  rw [List.map_map]
  exact d.nodup_keys

/-- Parameters are valid unless an open one, a text, stands where the headers are expected. -/
theorem accepts_params_iff {x : RawParams} :
    Accepts p Schemas.params x.toJson ↔ ∀ e ∈ x.extra.entries, e.1 ≠ "__ow_headers" := by
  have hobject : (Keyword.type [.object]).Accepts p x.toJson := accepts_object_mkObj _
  rw [Schemas.params, accepts_all]
  simp only [List.forall_mem_cons, hobject, List.not_mem_nil, false_implies, implies_true, and_true]
  rw [RawParams.toJson, Json.mkObj, Json.ofDict, accepts_others]
  constructor
  · intro h e he hname
    have htext := h _ (mem_mkObj_texts _ he)
    simp [hname, Entries.get?, accepts_typed_str] at htext
  · intro h
    refine Dict.forall_mem_ofList ?_
    simp only [List.forall_mem_append, forall_mem_field, List.forall_mem_map]
    refine ⟨by simp [Entries.get?, accepts_typed], ?_⟩
    intro e he
    have hname : e.1 ≠ "__ow_headers" := h e he
    simp only [Entries.get?, hname, if_false]
    repeat' split
    all_goals exact accepts_typed_str.2 rfl

/-- The secrets are valid if they have names of secrets. -/
theorem accepts_secrets_iff {x : Secrets} :
    Accepts p Schemas.secrets x.toJson ↔
      ∀ e ∈ x.extra.entries, e.1 ≠ rawRootKey → IsSecretName e.1 := by
  have hobject : (Keyword.type [.object]).Accepts p x.toJson := accepts_object_mkObj _
  rw [Schemas.secrets, accepts_all]
  simp only [List.forall_mem_cons, hobject, List.not_mem_nil, false_implies, implies_true, and_true]
  rw [Secrets.toJson, Json.mkObj, Json.ofDict, accepts_noOthers]
  constructor
  · intro h e he hname
    rcases (h _ (mem_mkObj_texts _ he)).1 with hnamed | ⟨m, hm, hfound⟩
    · exact absurd (by simpa [Entries.get?, rawRootKey] using hnamed) hname
    · rw [List.mem_singleton.1 hm] at hfound
      exact found_secretName_iff.1 hfound
  · intro h
    have htext : ∀ q s, Accepts q (Schemas.typed .string) (.str s) :=
      fun q s => accepts_typed_str.2 rfl
    refine Dict.forall_mem_ofList ?_
    simp only [List.forall_mem_append, forall_mem_field, List.forall_mem_map]
    constructor
    · simp [Entries.get?, accepts_typed, rawRootKey]
    · intro e he
      refine ⟨?_, ?_, ?_⟩
      · by_cases hname : e.1 = rawRootKey
        · exact .inl (by simp [Entries.get?, hname, rawRootKey])
        · exact .inr ⟨_, List.mem_singleton_self _, found_secretName_iff.2 (h e he hname)⟩
      · intro s hs
        rw [Entries.get?] at hs
        split at hs
        · cases hs
          exact htext _ _
        · cases hs
      · intro m hm _
        rw [List.mem_singleton.1 hm]
        exact htext _ _

/-- What the schema for contexts accepts. -/
theorem accepts_context_iff {c : Context} :
    Accepts p Schemas.context c.toJson ↔ ContextValid c := by
  have hrequest : ∀ q, Accepts q (Schemas.record [("params", Schemas.params)])
      (.mkObj [("params", c.params.toJson)]) ↔
        ∀ e ∈ c.params.extra.entries, e.1 ≠ "__ow_headers" := by
    intro q
    rw [accepts_record (by decide) (by simp)]
    simp [Entries.get?, accepts_params_iff]
  rw [Schemas.context, Context.toJson, accepts_closed (by simp)]
  simp only [List.forall_mem_cons, Entries.get?]
  simp only [String.reduceEq, if_false, if_true, Option.some.injEq,
    exists_eq_left', hrequest, accepts_secrets_iff]
  constructor
  · rintro ⟨hheaders, hsecrets, -⟩
    exact ⟨hheaders, hsecrets⟩
  · rintro ⟨hheaders, hsecrets⟩
    exact ⟨hheaders, hsecrets, by simp⟩

/-! ## Checks -/

theorem get?_bundled {id : String} {s : Schema}
    (h : (id, s) ∈ [(contextSchemaId, Schemas.context), (stateSchemaId, Schemas.state)]) :
    Registry.bundled.get? id = some (Schema.plainRule s) := by
  rw [Registry.bundled, Dict.get?_eq_some_iff, Dict.mem_ofList_iff (by simp; decide)]
  exact List.mem_map_of_mem (f := fun n : String × Schema => (n.1, Schema.plainRule n.2)) h

/-- The registry has a list of violations for a schema of its own, and it is empty exactly if the
schema accepts. -/
theorem exists_violations_bundled (id : String) (schema : Schema) (j : Json)
    (h : (id, schema) ∈ [(contextSchemaId, Schemas.context), (stateSchemaId, Schemas.state)]) :
    ∃ vs, Registry.bundled.violations id j = .ok vs ∧ (vs = [] ↔ Accepts [] schema j) := by
  have hget : Registry.bundled.get? id = some (Schema.plainRule schema) := get?_bundled h
  refine ⟨(Schema.plainRule schema [] j).map Schema.Violation.text, ?_, ?_⟩
  · rw [Registry.violations, hget]
  · exact List.map_eq_nil_iff

theorem SchemaSource.check_of_registry {source : SchemaSource} {files : Files} {r : Registry}
    (h : source.registry files = .ok r) (s : State) (ctx : Context) (n : Nat) :
    source.check files s ctx n = r.check s ctx n := by
  rw [SchemaSource.check, h]
  rfl

theorem check_bundled_eq (files : Files) :
    SchemaSource.bundled.check files = Registry.bundled.check := by
  funext s c n
  exact SchemaSource.check_of_registry rfl s c n

/-- A check passes what both schemas accept.  Otherwise it tells what is wrong with the state, and
with the context only if nothing is wrong with the state. -/
theorem check_bundled_cases (s : State) (c : Context) (step : Nat) :
    (Accepts [] Schemas.state s.toJson ∧ Accepts [] Schemas.context c.toJson ∧
      Registry.bundled.check s c step = .ok ()) ∨
    (¬ Accepts [] Schemas.state s.toJson ∧ ∃ vs, vs ≠ [] ∧
      Registry.bundled.check s c step = .error (.invalidState step vs)) ∨
    (Accepts [] Schemas.state s.toJson ∧ ¬ Accepts [] Schemas.context c.toJson ∧ ∃ vs, vs ≠ [] ∧
      Registry.bundled.check s c step = .error (.invalidContext step vs)) := by
  obtain ⟨vs, hvs, hstate⟩ :=
    exists_violations_bundled stateSchemaId Schemas.state s.toJson (by simp)
  obtain ⟨ws, hws, hcontext⟩ :=
    exists_violations_bundled contextSchemaId Schemas.context c.toJson (by simp)
  rw [Registry.check_eq, hvs, hws]
  cases vs with
  | cons v vs =>
      have hne : v :: vs ≠ [] := List.cons_ne_nil v vs
      exact .inr (.inl ⟨mt hstate.2 hne, v :: vs, hne, rfl⟩)
  | nil =>
      cases ws with
      | cons w ws =>
          have hne : w :: ws ≠ [] := List.cons_ne_nil w ws
          exact .inr (.inr ⟨hstate.1 rfl, mt hcontext.2 hne, w :: ws, hne, rfl⟩)
      | nil => exact .inl ⟨hstate.1 rfl, hcontext.1 rfl, rfl⟩

/-- The schemas of this library pass what conforms. -/
theorem check_bundled {s : State} {c : Context} {step : Nat} (hapart : ContentApart s.content)
    (hs : StateConforms s) (hc : ContextValid c) : Registry.bundled.check s c step = .ok () := by
  rcases check_bundled_cases s c step with ⟨-, -, hpass⟩ | ⟨hstate, -⟩ | ⟨-, hcontext, -⟩
  · exact hpass
  · exact absurd ((accepts_state_iff hapart).2 hs) hstate
  · exact absurd (accepts_context_iff.2 hc) hcontext

end Pipeline

end PagePress
