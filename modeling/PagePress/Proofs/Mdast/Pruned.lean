import PagePress.Json.Printer
import PagePress.Proofs.Mdast.Codec

/-!
# What a tree keeps of its JSON

A node is read from an object and written as one.  What is written is the object that was read but
for fields that stand for nothing, and but for the two other ways in which a value can be given: a
position or a point as the list of its values, and an alignment as an object.

* `prunedField` is what is kept of a field, `spelledField` how its value is spelled, `keptField`
  both;
* `eachField` passes every field of every node below `children` through a function;
* `Node.json_faithful`: the tree that is read holds all of the JSON that is kept, and no tree is
  lost when it is written.
-/

namespace PagePress

namespace Mdast

open Json (Respells)

/-! ## What is kept -/

/-- A point without a `null` as its offset and without fields of other names. -/
def prunedPoint : Json → Json :=
  Json.filterMapFields fun k v =>
    if k = "line" ∨ k = "column" ∨ (k = "offset" ∧ v ≠ .null) then some v else none

/-- A position of such points without a `null` as its indentation and without fields of other
names. -/
def prunedPosition : Json → Json :=
  Json.filterMapFields fun k v =>
    if k = "start" ∨ k = "end" then some (prunedPoint v)
    else if k = "indent" ∧ v ≠ .null then some v
    else none

/-- What is kept of a field of a node: no standard one that is `null` and no children if there are
none. -/
def prunedField (k : String) (v : Json) : Option Json :=
  if k = "children" then if v = .arr [] then none else some v
  else if k ∈ Fields.names ∧ v = .null then none
  else if k = "position" then some (prunedPosition v)
  else some v

/-! ## How it is spelled -/

/-- A point as an object. -/
def spelledPoint : Json → Json := Json.asObject ["line", "column", "offset"]

/-- A position as an object whose points are objects. -/
def spelledPosition (j : Json) : Json :=
  (j.asObject ["start", "end", "indent"]).filterMapFields fun k v =>
    some (if k = "start" ∨ k = "end" then spelledPoint v else v)

/-- An alignment as a name. -/
def spelledAlign : Json → Json
  | .obj [(s, .null)] => .str s
  | j => j

/-- The value of a field of a node with its positions as objects and its alignments as names. -/
def spelledField (k : String) (v : Json) : Json :=
  if k = "position" then spelledPosition v
  else if k = "align" then v.mapItems spelledAlign
  else v

/-- What is written for a field: what is kept of it, spelled in one way. -/
def keptField (k : String) (v : Json) : Option Json := prunedField k (spelledField k v)

/-! ## Every node below `children` -/

mutual

/-- The object of a node with each field changed or dropped, the fields of its children first. -/
def eachField (f : String → Json → Option Json) : Json → Json
  | .obj es => .obj (eachEntry f es)
  | j => j

/-- The fields of a node, each changed or dropped. -/
def eachEntry (f : String → Json → Option Json) : List (String × Json) → List (String × Json)
  | [] => []
  | (k, v) :: rest =>
    ((f k (if k = "children" then eachChild f v else v)).map fun w => (k, w)).toList
      ++ eachEntry f rest

/-- The list of the children of a node with each of their fields changed or dropped. -/
def eachChild (f : String → Json → Option Json) : Json → Json
  | .arr xs => .arr (eachItem f xs)
  | j => j

/-- The objects of nodes with each of their fields changed or dropped. -/
def eachItem (f : String → Json → Option Json) : List Json → List Json
  | [] => []
  | x :: xs => eachField f x :: eachItem f xs

end

/-! ## Positions -/

theorem respells_point :
    Respells Point.ofJson? Point.toJson fun j => prunedPoint (spelledPoint j) := by
  intro j p hj h
  change p.toJson = prunedPoint (j.asObject ["line", "column", "offset"])
  unfold Point.ofJson? at h
  obtain ⟨r, hr, h⟩ := Option.bind_eq_some_iff.1 h
  obtain ⟨line, hline, h⟩ := Option.bind_eq_some_iff.1 h
  obtain ⟨column, hcolumn, h⟩ := Option.bind_eq_some_iff.1 h
  obtain ⟨offset, hoffset, h⟩ := Option.bind_eq_some_iff.1 h
  obtain rfl := Option.some.inj h
  obtain ⟨d, hd, hget⟩ := Json.exists_dict_of_record? (by decide) hj hr
  have hordered := Json.ordered_of_record? hj hr
  obtain ⟨v, hv, hline⟩ := Json.respells_nat.of_required? hordered hline
  obtain ⟨w, hw, hcolumn⟩ := Json.respells_nat.of_required? hordered hcolumn
  replace hoffset := Json.respells_nat.of_optional? hordered hoffset
  rw [hget _ _ rfl] at hv hw hoffset
  rw [hd]
  refine Json.ofDict_eq_filterMapFields fun k => ?_
  by_cases h₁ : k = "line"
  · subst h₁
    simp [hv, hline]
  · by_cases h₂ : k = "column"
    · subst h₂
      simp [hw, hcolumn]
    · by_cases h₃ : k = "offset"
      · subst h₃
        simp [hoffset]
      · simp [h₁, h₂, h₃]

theorem respells_nats :
    Respells (Json.listOf? Json.nat?) (fun ns => .arr (ns.map Json.ofNat)) id := by
  intro j ns hj h
  have hitems := Json.respells_nat.list hj h
  cases j with
  | arr xs => simpa [Json.mapItems] using hitems
  | null | bool | int | float | str | obj => exact hitems

theorem respells_position :
    Respells Position.ofJson? Position.toJson fun j => prunedPosition (spelledPosition j) := by
  intro j p hj h
  change p.toJson = prunedPosition (spelledPosition j)
  -- The object is first spelled and then pruned, so each name is looked up through both.
  unfold Position.ofJson? at h
  obtain ⟨r, hr, h⟩ := Option.bind_eq_some_iff.1 h
  obtain ⟨start, hstart, h⟩ := Option.bind_eq_some_iff.1 h
  obtain ⟨stop, hstop, h⟩ := Option.bind_eq_some_iff.1 h
  obtain ⟨indent, hindent, h⟩ := Option.bind_eq_some_iff.1 h
  obtain rfl := Option.some.inj h
  obtain ⟨d, hd, hget⟩ := Json.exists_dict_of_record? (by decide) hj hr
  have hordered := Json.ordered_of_record? hj hr
  obtain ⟨v, hv, hstart⟩ := respells_point.of_required? hordered hstart
  obtain ⟨w, hw, hstop⟩ := respells_point.of_required? hordered hstop
  replace hindent := respells_nats.of_optional? hordered hindent
  rw [hget _ _ rfl] at hv hw hindent
  rw [spelledPosition, hd, Json.filterMapFields_ofDict]
  refine Json.ofDict_eq_filterMapFields fun k => ?_
  rw [Dict.get?_filterMap]
  by_cases h₁ : k = "start"
  · subst h₁
    simp [hv, hstart]
  · by_cases h₂ : k = "end"
    · subst h₂
      simp [hw, hstop]
    · by_cases h₃ : k = "indent"
      · subst h₃
        simp [hindent]
      · simp [h₁, h₂, h₃]

/-! ## Alignments -/

theorem name_of_ofName? {s : String} {a : Align} (h : Align.ofName? s = some a) : a.name = s := by
  unfold Align.ofName? at h
  split at h
  all_goals cases h
  all_goals rfl

theorem respells_columns :
    Respells (Json.nullable? Align.ofJson?) (fun c => Json.ofText? (c.map Align.name))
      spelledAlign := by
  intro j c _ h
  change Json.ofText? (c.map Align.name) = spelledAlign j
  unfold Json.nullable? at h
  split at h
  · cases h
    rfl
  · obtain ⟨a, ha, rfl⟩ := Option.map_eq_some_iff.1 h
    unfold Align.ofJson? at ha
    split at ha
    · rw [← name_of_ofName? ha]
      rfl
    · rw [← name_of_ofName? ha]
      rfl
    · cases ha

/-! ## Fields -/

/-- A name is that of the type, of the children, of another standard field or of none. -/
theorem Fields.name_cases (k : String) :
    k = "type" ∨ k = "children" ∨ k ∈ Fields.names ∨ k ∉ Fields.reserved := by
  by_cases hk : k ∈ Fields.reserved
  · simp only [Fields.reserved, List.mem_cons] at hk
    obtain htype | hchildren | hname := hk
    · exact .inl htype
    · exact .inr (.inl hchildren)
    · exact .inr (.inr (.inl hname))
  · exact .inr (.inr (.inr hk))

theorem keptField_type (v : Json) : keptField "type" v = some v := by
  have hname : "type" ∉ Fields.names := by decide
  simp [keptField, prunedField, spelledField, hname]

theorem keptField_children (v : Json) :
    keptField "children" v = if v = .arr [] then none else some v := by
  simp [keptField, prunedField, spelledField]

/-- The fields of no standard name are kept as they are. -/
theorem keptField_other {k : String} (hk : k ∉ Fields.reserved) (v : Json) :
    keptField k v = some v := by
  have hne : ∀ name ∈ Fields.reserved, k ≠ name := fun name hname heq => hk (heq ▸ hname)
  have hname : k ∉ Fields.names :=
    fun hmem => hk (List.mem_cons_of_mem _ (List.mem_cons_of_mem _ hmem))
  simp [keptField, prunedField, spelledField, hname, hne "children" (by decide),
    hne "position" (by decide), hne "align" (by decide)]

theorem keptField_plain {k : String} (hk : k ∈ Fields.names ∧ k ≠ "position" ∧ k ≠ "align")
    (v : Json) : keptField k v = if v = .null then none else some (id v) := by
  obtain ⟨hname, hposition, halign⟩ := hk
  have hchildren : k ≠ "children" := by
    rintro rfl
    exact absurd hname (by decide)
  simp [keptField, prunedField, spelledField, hname, hposition, halign, hchildren]

theorem keptField_align (v : Json) :
    keptField "align" v = if v = .null then none else some (v.mapItems spelledAlign) := by
  have hname : "align" ∈ Fields.names := by decide
  cases v <;> simp [keptField, prunedField, spelledField, hname, Json.mapItems]

theorem keptField_position (v : Json) :
    keptField "position" v =
      if v = .null then none else some (prunedPosition (spelledPosition v)) := by
  have hname : "position" ∈ Fields.names := by decide
  cases v <;> simp [keptField, prunedField, spelledField, hname, spelledPosition, Json.asObject,
    Json.mkObj, Json.ofDict, Json.filterMapFields]

/-- What is written for an optional field that was read is what is kept of its entry. -/
theorem written_of_optional? {α : Type} {read : Json → Option α} {write : α → Json}
    {spell : Json → Json} {es : List (String × Json)} {k : String} {o : Option α}
    (hes : (Json.obj es).Ordered) (h : Respells read write spell)
    (hkept : ∀ v, keptField k v = if v = .null then none else some (spell v))
    (ho : Json.Record.optional? (.named es) 0 k read = some o) :
    o.map write = (Entries.get? k es).bind (keptField k) := by
  have hrecord : (Json.obj es).record? Fields.names = some (.named es) := rfl
  rw [h.of_optional? (Json.ordered_of_record? hes hrecord) ho, funext hkept]
  rfl

/-- What is read of the fields of an object: each standard one as it is kept, and the others as
they are. -/
theorem Fields.of_ofEntries? {es : List (String × Json)} {f : Fields}
    (hes : (Json.obj es).Ordered) (h : Fields.ofEntries? es = some f) :
    (∀ e ∈ f.written,
      e.2 = (Entries.get? e.1 es).bind (keptField e.1)) ∧
    ∀ k, f.extra.get? k = if k ∈ Fields.reserved then Option.none else Entries.get? k es := by
  have plain {α : Type} {read : Json → Option α} {write : α → Json} {k : String} {o : Option α}
      (hk : k ∈ Fields.names ∧ k ≠ "position" ∧ k ≠ "align") (h : Respells read write id)
      (ho : Json.Record.optional? (.named es) 0 k read = some o) :=
    written_of_optional? hes h (keptField_plain hk) ho
  -- The fields one after the other, in the order in which they are read.
  unfold Fields.ofEntries? at h
  obtain ⟨value, hvalue, h⟩ := Option.bind_eq_some_iff.1 h
  obtain ⟨depth, hdepth, h⟩ := Option.bind_eq_some_iff.1 h
  obtain ⟨ordered, hordered, h⟩ := Option.bind_eq_some_iff.1 h
  obtain ⟨start, hstart, h⟩ := Option.bind_eq_some_iff.1 h
  obtain ⟨spread, hspread, h⟩ := Option.bind_eq_some_iff.1 h
  obtain ⟨loose, hloose, h⟩ := Option.bind_eq_some_iff.1 h
  obtain ⟨checked, hchecked, h⟩ := Option.bind_eq_some_iff.1 h
  obtain ⟨align, halign, h⟩ := Option.bind_eq_some_iff.1 h
  obtain ⟨lang, hlang, h⟩ := Option.bind_eq_some_iff.1 h
  obtain ⟨info, hinfo, h⟩ := Option.bind_eq_some_iff.1 h
  obtain ⟨identifier, hidentifier, h⟩ := Option.bind_eq_some_iff.1 h
  obtain ⟨label, hlabel, h⟩ := Option.bind_eq_some_iff.1 h
  obtain ⟨url, hurl, h⟩ := Option.bind_eq_some_iff.1 h
  obtain ⟨title, htitle, h⟩ := Option.bind_eq_some_iff.1 h
  obtain ⟨alt, halt, h⟩ := Option.bind_eq_some_iff.1 h
  obtain ⟨referenceType, hreferenceType, h⟩ := Option.bind_eq_some_iff.1 h
  obtain ⟨position, hposition, h⟩ := Option.bind_eq_some_iff.1 h
  obtain rfl := Option.some.inj h
  constructor
  · simp only [Fields.written, List.forall_mem_cons]
    exact ⟨plain (by decide) Json.respells_str hvalue, plain (by decide) Json.respells_byte hdepth,
      plain (by decide) Json.respells_bool hordered, plain (by decide) Json.respells_nat hstart,
      plain (by decide) Json.respells_bool hspread, plain (by decide) Json.respells_bool hloose,
      plain (by decide) Json.respells_bool hchecked,
      written_of_optional? hes respells_columns.list keptField_align halign,
      plain (by decide) Json.respells_str hlang, plain (by decide) Json.respells_str hinfo,
      plain (by decide) Json.respells_str hidentifier, plain (by decide) Json.respells_str hlabel,
      plain (by decide) Json.respells_str hurl, plain (by decide) Json.respells_str htitle,
      plain (by decide) Json.respells_str halt,
      plain (by decide) Json.respells_str hreferenceType,
      written_of_optional? hes respells_position keptField_position hposition,
      fun _ hnil => absurd hnil List.not_mem_nil⟩
  · intro k
    have hkept := Dict.get?_filterKeys ⟨es, hes.ascending⟩ (fun k => !Fields.reserved.contains k) k
    rw [← Dict.ofList_entries (Dict.filterKeys ..)] at hkept
    have hget : Dict.get? ⟨es, hes.ascending⟩ k = Entries.get? k es := rfl
    refine hkept.trans ?_
    by_cases hk : k ∈ Fields.reserved <;> simp [hk, hget]

/-! ## Nodes -/

theorem eachEntry_eq (f : String → Json → Option Json) (es : List (String × Json)) :
    eachEntry f es = es.filterMap fun e =>
      (f e.1 (if e.1 = "children" then eachChild f e.2 else e.2)).map fun w => (e.1, w) := by
  induction es with
  | nil => rw [eachEntry, List.filterMap_nil]
  | cons e es ih =>
      obtain ⟨k, v⟩ := e
      rw [eachEntry, ih, List.filterMap_cons]
      cases f k (if k = "children" then eachChild f v else v) <;> rfl

theorem eachField_obj {es : List (String × Json)} (hes : Entries.Ascending es)
    (f : String → Json → Option Json) :
    eachField f (.obj es) = (Json.ofDict ⟨es, hes⟩).filterMapFields fun k v =>
      f k (if k = "children" then eachChild f v else v) := by
  rw [eachField, eachEntry_eq]
  rfl

namespace Node

/-- What is written for a node whose parts were read is what is kept of its object, if the same
holds of its children. -/
theorem written_eq_eachField {es : List (String × Json)} (hes : (Json.obj es).Ordered)
    {t : String} {f : Fields} {cs : List Node} {js : List Json}
    (htype : (Entries.get? "type" es).bind Json.str? = some t)
    (hfields : Fields.ofEntries? es = some f) (hchildren : childrenOf? es = some cs)
    (hjs : js = match Entries.get? "children" es with
      | some (.arr xs) => eachItem keptField xs
      | _ => []) :
    Json.ofDict (written t f js) = eachField keptField (.obj es) := by
  obtain ⟨hwritten, hextra⟩ := Fields.of_ofEntries? hes hfields
  have hapart : ∀ e ∈ f.extra.entries, e.1 ∉ Fields.reserved := by
    intro e he hreserved
    have hget : f.extra.get? e.1 = some e.2 := Dict.get?_eq_some_iff.2 he
    rw [hextra, if_pos hreserved] at hget
    cases hget
  rw [eachField_obj hes.ascending]
  refine Json.ofDict_eq_filterMapFields fun k => ?_
  change _ = (Entries.get? k es).bind _
  obtain rfl | rfl | hname | hother := Fields.name_cases k
  · -- The type was read as a text, and a text is spelled in one way only.
    obtain ⟨v, hv, hstr⟩ := Option.bind_eq_some_iff.1 htype
    have hordered : v.Ordered := hes.values _ (Entries.mem_of_get? hv)
    have hspelled : .str t = v := Json.respells_str hordered hstr
    rw [get?_written_type hapart, hv, ← hspelled]
    exact (keptField_type _).symm
  · -- No children are written if there are none, and an empty list of them is not kept.
    rw [get?_written_children hapart, hjs]
    rw [childrenOf?_eq] at hchildren
    split at hchildren
    · rename_i hget
      simp [hget]
    · rename_i xs hget
      simp [hget, keptField_children, eachChild]
    · cases hchildren
  · have hne : k ≠ "children" := by
      rintro rfl
      exact absurd hname (by decide)
    rw [← f.keys_written] at hname
    obtain ⟨e, he, rfl⟩ := List.mem_map.1 hname
    rw [get?_written_of_mem hapart he, hwritten e he]
    simp [hne]
  · have hne : k ≠ "children" := by
      rintro rfl
      exact absurd hother (by decide)
    rw [get?_written_of_not_mem hother, hextra, if_neg hother]
    simp [hne, keptField_other hother]

mutual

/-- What is written for a tree that was read is what is kept of what was read. -/
theorem toJson_of_ofJson? : ∀ {j : Json} {n : Node}, j.Ordered → ofJson? j = some n →
    n.toJson = eachField keptField j
  | .obj es, n, hj, h => by
    rw [ofJson?] at h
    split at h
    · rename_i t cs f htype hchildren hfields
      obtain rfl := Option.some.inj h
      rw [toJson_mk]
      exact written_eq_eachField hj htype hfields hchildren
        (listToJson_of_childrenOf? hj.values hchildren)
    · cases h
  | .null, _, _, h => nomatch h
  | .bool _, _, _, h => nomatch h
  | .int _, _, _, h => nomatch h
  | .float _, _, _, h => nomatch h
  | .str _, _, _, h => nomatch h
  | .arr _, _, _, h => nomatch h

theorem listToJson_of_childrenOf? : ∀ {es : List (String × Json)} {cs : List Node},
    (∀ e ∈ es, e.2.Ordered) → childrenOf? es = some cs →
      listToJson cs = match Entries.get? "children" es with
        | some (.arr xs) => eachItem keptField xs
        | _ => []
  | [], _, _, h => by
    rw [childrenOf?] at h
    cases h
    rfl
  | (k, v) :: es, cs, hes, h => by
    obtain ⟨hv, hes⟩ := List.forall_mem_cons.1 hes
    unfold childrenOf? at h
    rw [Entries.get?]
    split at h
    · rename_i hk
      rw [if_pos hk.symm]
      split at h
      · exact listToJson_of_listOfJson? hv.items h
      · cases h
    · rename_i hk
      rw [if_neg (Ne.symm hk)]
      exact listToJson_of_childrenOf? hes h

theorem listToJson_of_listOfJson? : ∀ {xs : List Json} {ns : List Node},
    (∀ x ∈ xs, x.Ordered) → listOfJson? xs = some ns →
      listToJson ns = eachItem keptField xs
  | [], _, _, h => by
    rw [listOfJson?] at h
    cases h
    rfl
  | x :: xs, ns, hxs, h => by
    rw [listOfJson?] at h
    split at h
    · rename_i m ms hm hms
      obtain rfl := Option.some.inj h
      obtain ⟨hx, hxs⟩ := List.forall_mem_cons.1 hxs
      rw [listToJson, eachItem, toJson_of_ofJson? hx hm, listToJson_of_listOfJson? hxs hms]
    · cases h

end

/-- Reading and writing a tree loses nothing.  The tree that is read from an object is written as
what is kept of the object, with its positions and points as objects and its alignments as names;
and what is written for a tree is read as the tree, unless an extra field has the name of a standard
one. -/
theorem json_faithful :
    (∀ (j : Json) (n : Node), j.Ordered → ofJson? j = some n →
      n.toJson = eachField keptField j) ∧
    ∀ n : Node, (∀ m ∈ n.walk, m.FieldsApart) → ofJson? n.toJson = some n :=
  ⟨fun _ _ => toJson_of_ofJson?, fun _ => ofJson?_toJson⟩

/-- A list with fields of all sorts: standard and extra ones, some of them `null`. -/
def crowdedList : Json :=
  .mkObj [("type", .str "list"), ("title", .null), ("note", .mkObj [("kept", .null)]),
    ("position", .arr [.arr [.int 1, .int 1], .arr [.int 2, .int 7, .null]]),
    ("children", .arr [.mkObj [("type", .str "break"), ("children", .arr [])]])]

/-- A tree with extra fields at two depths. -/
def annotatedTree : Node :=
  .mk "table"
    { Fields.none with
      start := some 18446744073709551615
      align := some [some .left, none]
      position := some ⟨⟨1, 1, none⟩, ⟨2, 7, some 30⟩, some []⟩
      extra := .ofList [("note", .mkObj [("kept", .null)])] }
    [.mk "tableRow" { Fields.none with extra := .ofList [("note", .arr [])] } []]

theorem json_faithful_annotated :
    (crowdedList.Ordered ∧
      ∃ n, ofJson? crowdedList = some n ∧ n.toJson = eachField keptField crowdedList) ∧
    (∀ m ∈ annotatedTree.walk, m.FieldsApart) ∧
      ofJson? annotatedTree.toJson = some annotatedTree := by
  have hread : Json.read? crowdedList.compact = some crowdedList := by decide +kernel
  have hordered : crowdedList.Ordered := Json.ordered_of_read? hread
  have hsome : (ofJson? crowdedList).isSome = true := by decide +kernel
  obtain ⟨n, hn⟩ := Option.isSome_iff_exists.1 hsome
  have hapart : ∀ m ∈ annotatedTree.walk, m.FieldsApart := by decide +kernel
  exact ⟨⟨hordered, n, hn, json_faithful.1 crowdedList n hordered hn⟩, hapart,
    json_faithful.2 annotatedTree hapart⟩

/-- A table whose position and first point are lists and whose alignment is an object. -/
def listedTable : Json :=
  .mkObj [("type", .str "table"), ("align", .arr [.mkObj [("left", .null)]]),
    ("position", .arr [.arr [.int 1, .int 1], .mkObj [("line", .int 1), ("column", .int 2)]])]

/-- Leaving out what stands for nothing does not account for how a tree is written. -/
theorem listedTable_respelled :
    listedTable.Ordered ∧
      ∃ n, ofJson? listedTable = some n ∧ n.toJson ≠ eachField prunedField listedTable := by
  have hread : Json.read? listedTable.compact = some listedTable := by decide +kernel
  have hsome : (ofJson? listedTable).isSome = true := by decide +kernel
  obtain ⟨n, hn⟩ := Option.isSome_iff_exists.1 hsome
  have hne : (ofJson? listedTable).map toJson ≠ some (eachField prunedField listedTable) := by
    decide +kernel
  rw [hn] at hne
  exact ⟨Json.ordered_of_read? hread, n, hn, fun heq => hne (congrArg some heq)⟩

end Node

end Mdast

end PagePress
