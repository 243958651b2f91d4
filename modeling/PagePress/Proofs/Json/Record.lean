import PagePress.Json.Decode
import PagePress.Proofs.Dictionary
import PagePress.Proofs.Json.Ordered

/-!
# Records — what is read back from what is written

A value is written as JSON by one function and read by another; a record is an object of such
values.  The lemmas here take a round trip apart into those of the fields.

* `ReadsBack write read a`: what is written for `a` is not `null` and is read as `a`;
* `Record.optional?_of_get?`, `Record.defaulted?_of_get?`: a field is read back from its entry;
* `Respells read write spell`: what is read and written again is the value, spelled by `spell`;
* `Respells.of_optional?`: the entry that is written for a field that was read;
* `exists_dict_of_record?`: a record that is given as a list is that of its object.
-/

namespace PagePress

namespace Json

variable {α β : Type}

/-! ## Values that are read back -/

/-- What is written for the value is not `null` and is read as the value. -/
structure ReadsBack (write : α → Json) (read : Json → Option α) (a : α) : Prop where
  ne_null : write a ≠ .null
  read_write : read (write a) = some a

theorem readsBack_str (s : String) : ReadsBack .str str? s := ⟨nofun, rfl⟩

theorem readsBack_bool (b : Bool) : ReadsBack .bool bool? b := ⟨nofun, rfl⟩

theorem readsBack_nat (n : Nat) : ReadsBack ofNat nat? n := ⟨nofun, rfl⟩

theorem readsBack_byte (n : UInt8) : ReadsBack (fun n => ofNat n.toNat) byte? n := by
  refine ⟨nofun, ?_⟩
  have hread : nat? (ofNat n.toNat) = some n.toNat := rfl
  simp [byte?, hread, n.toNat_lt]

theorem readsBack_short (n : UInt16) : ReadsBack (fun n => ofNat n.toNat) short? n := by
  refine ⟨nofun, ?_⟩
  have hread : nat? (ofNat n.toNat) = some n.toNat := rfl
  simp [short?, hread, n.toNat_lt]

theorem mapM_map {write : α → β} {read : β → Option α} {xs : List α}
    (h : ∀ a ∈ xs, read (write a) = some a) : (xs.map write).mapM read = some xs := by
  induction xs with
  | nil => rfl
  | cons a xs ih =>
      have ha : read (write a) = some a := h a (List.mem_cons_self ..)
      have hxs := ih fun b hb => h b (List.mem_cons_of_mem _ hb)
      simp [ha, hxs]

section

variable {write : α → Json} {read : Json → Option α}

theorem readsBack_list {xs : List α} (h : ∀ a ∈ xs, read (write a) = some a) :
    ReadsBack (fun xs => .arr (xs.map write)) (listOf? read) xs :=
  ⟨nofun, mapM_map h⟩

theorem readsBack_dict {d : Dict α} (h : ∀ e ∈ d.entries, read (write e.2) = some e.2) :
    ReadsBack (fun d => ofDict (d.mapValues write)) (dictOf? read) d := by
  refine ⟨nofun, ?_⟩
  have hentries : (d.entries.map fun e => (e.1, write e.2)).mapM (fun e =>
      (read e.2).map fun v => (e.1, v)) = some d.entries :=
    mapM_map fun e he => by rw [h e he, Option.map_some]
  simp [dictOf?, ofDict, Dict.mapValues, hentries, Dict.ofList_entries]

end

theorem readsBack_strings (ss : List String) : ReadsBack ofStrings strings? ss :=
  readsBack_list fun _ _ => rfl

theorem readsBack_texts (d : Dict String) : ReadsBack ofTexts texts? d :=
  readsBack_dict fun _ _ => rfl

theorem readsBack_object (d : Dict Json) : ReadsBack ofDict object? d := by
  have hmap : ofDict (d.mapValues id) = ofDict d := by simp [ofDict, Dict.mapValues]
  have hread : ReadsBack (fun d => ofDict (d.mapValues id)) object? d :=
    readsBack_dict fun _ _ => rfl
  refine ⟨?_, hmap ▸ hread.read_write⟩
  intro hnull
  cases hnull

/-! ## Fields of records -/

theorem record?_ofDict (names : List String) (d : Dict Json) :
    (ofDict d).record? names = some (.named d.entries) := rfl

@[simp] theorem Record.get?_named (d : Dict Json) (i : Nat) (k : String) :
    (Record.named d.entries).get? i k = d.get? k := rfl

section

variable {write : α → Json} {read : Json → Option α} {r : Record} {i : Nat} {k : String}

theorem Record.required?_of_get? {a : α} (hget : r.get? i k = some (write a))
    (h : ReadsBack write read a) : r.required? i k read = some a := by
  rw [required?, hget, Option.bind_some, h.read_write]

theorem Record.optional?_of_get? {o : Option α} (hget : r.get? i k = o.map write)
    (h : ∀ a ∈ o, ReadsBack write read a) : r.optional? i k read = some o := by
  rw [optional?, hget]
  cases o with
  | none => rfl
  | some a =>
      have ha : ReadsBack write read a := h a rfl
      rw [Option.map_some]
      -- A `null` would be read as an absent field, but none is written.
      split
      · contradiction
      · rename_i heq
        exact absurd (Option.some.inj heq) ha.ne_null
      · rename_i v _ heq
        rw [← Option.some.inj heq, ha.read_write, Option.map_some]

theorem Record.defaulted?_of_get? {a : α} (hget : r.get? i k = some (write a))
    (h : ReadsBack write read a) (default : α) : r.defaulted? i k default read = some a := by
  rw [defaulted?, hget]
  exact h.read_write

/-- A list is not written when it is empty, which is what is read then. -/
theorem Record.defaulted?_list {xs : List α}
    (hget : r.get? i k = if xs = [] then none else some (.arr (xs.map write)))
    (h : ∀ a ∈ xs, read (write a) = some a) : r.defaulted? i k [] (listOf? read) = some xs := by
  rw [defaulted?, hget]
  cases xs with
  | nil => rfl
  | cons a xs => exact mapM_map h

end

theorem Record.optional?_text {r : Record} {i : Nat} {k : String} {s : Option String}
    (hget : r.get? i k = s.map .str) : r.optional? i k str? = some s :=
  optional?_of_get? hget fun s _ => readsBack_str s

theorem Record.defaulted?_strings {r : Record} {i : Nat} {k : String} {ss : List String}
    (hget : r.get? i k = if ss = [] then none else some (.arr (ss.map .str))) :
    r.defaulted? i k [] strings? = some ss :=
  defaulted?_list hget fun s _ => (readsBack_str s).read_write

/-- The children of a node are looked up among its fields, without such a field there are none. -/
theorem children_eq_get? {read : List (String × Json) → Option (List α)}
    {items : List Json → Option (List α)} (hnil : read [] = some [])
    (hcons : ∀ k v rest, read ((k, v) :: rest) =
      if k = "children" then (match v with | .arr xs => items xs | _ => none) else read rest)
    (es : List (String × Json)) :
    read es = match Entries.get? "children" es with
      | none => some []
      | some (.arr xs) => items xs
      | some _ => none := by
  induction es with
  | nil => exact hnil
  | cons e es ih =>
      obtain ⟨k, v⟩ := e
      rw [hcons, Entries.get?]
      by_cases hk : k = "children"
      · rw [if_pos hk, if_pos hk.symm]
        cases v <;> rfl
      · rw [if_neg hk, if_neg (Ne.symm hk), ih]

/-- Children are not written when there are none, which is what is read then. -/
theorem children_of_get? {items : List Json → Option (List α)} (hnil : items [] = some [])
    {es : List (String × Json)} {js : List Json} {as : List α}
    (hget : Entries.get? "children" es = if js = [] then none else some (.arr js))
    (has : items js = some as) :
    (match Entries.get? "children" es with
      | none => some []
      | some (.arr xs) => items xs
      | some _ => none) = some as := by
  rw [hget]
  by_cases hjs : js = []
  · rw [if_pos hjs, ← has, hjs, hnil]
  · rw [if_neg hjs]
    exact has

/-! ## Values that are written again -/

/-- What is written for the value that was read is what was read, spelled by `spell`. -/
def Respells (read : Json → Option α) (write : α → Json) (spell : Json → Json) : Prop :=
  ∀ {j : Json} {a : α}, j.Ordered → read j = some a → write a = spell j

theorem respells_str : Respells str? .str id := by
  intro j a _ h
  cases j <;> simp_all [str?]

theorem respells_bool : Respells bool? .bool id := by
  intro j a _ h
  cases j <;> simp_all [bool?]

theorem respells_nat : Respells nat? ofNat id := by
  intro j a _ h
  unfold nat? at h
  split at h
  · cases h
    rfl
  · cases h

theorem respells_byte : Respells byte? (fun n => ofNat n.toNat) id := by
  intro j a hj h
  unfold byte? at h
  split at h
  · rename_i n hn
    split at h
    · rename_i hlt
      cases h
      have hnat : n.toUInt8.toNat = n := by
        rw [UInt8.toNat_ofNat', Nat.mod_eq_of_lt hlt]
      change ofNat n.toUInt8.toNat = j
      rw [hnat]
      exact respells_nat hj hn
    · cases h
  · cases h

/-- The list of the changed items; what is not a list stays. -/
def mapItems (f : Json → Json) : Json → Json
  | .arr xs => .arr (xs.map f)
  | j => j

section

variable {read : Json → Option α} {write : α → Json} {spell : Json → Json}
variable {r : Record} {i : Nat} {k : String}

theorem Respells.map_of_mapM (h : Respells read write spell) {xs : List Json} :
    ∀ {as : List α}, (∀ x ∈ xs, x.Ordered) → xs.mapM read = some as →
      as.map write = xs.map spell := by
  induction xs with
  | nil =>
      intro as _ has
      cases has
      rfl
  | cons x xs ih =>
      intro as hordered has
      obtain ⟨hx, hxs⟩ := List.forall_mem_cons.1 hordered
      rw [List.mapM_cons] at has
      obtain ⟨a, ha, has⟩ := Option.bind_eq_some_iff.1 has
      obtain ⟨as, hmap, has⟩ := Option.bind_eq_some_iff.1 has
      obtain rfl := Option.some.inj has
      rw [List.map_cons, List.map_cons, h hx ha, ih hxs hmap]

theorem Respells.list (h : Respells read write spell) :
    Respells (listOf? read) (fun as => .arr (as.map write)) (mapItems spell) := by
  intro j as hj has
  cases j with
  | arr xs => exact congrArg Json.arr (h.map_of_mapM hj.items has)
  | null | bool | int | float | str | obj => cases has

/-- All values of the record are ordered. -/
def Record.Ordered (r : Record) : Prop := ∀ i k v, r.get? i k = some v → v.Ordered

theorem ordered_of_record? {names : List String} {j : Json} (hj : j.Ordered)
    (h : j.record? names = some r) : r.Ordered := by
  intro i k v hv
  cases j with
  | obj es =>
      obtain rfl : .named es = r := Option.some.inj h
      exact hj.values (k, v) (Entries.mem_of_get? hv)
  | arr xs =>
      rw [record?] at h
      split at h
      · obtain rfl : .listed xs = r := Option.some.inj h
        exact hj.items v (List.mem_of_getElem? hv)
      · cases h
  | null | bool | int | float | str => cases h

theorem Respells.of_required? (h : Respells read write spell) (hr : r.Ordered) {a : α}
    (ha : r.required? i k read = some a) : ∃ v, r.get? i k = some v ∧ write a = spell v := by
  obtain ⟨v, hv, hread⟩ := Option.bind_eq_some_iff.1 ha
  exact ⟨v, hv, h (hr i k v hv) hread⟩

/-- The entry that is written for an optional field that was read. -/
theorem Respells.of_optional? (h : Respells read write spell) (hr : r.Ordered) {o : Option α}
    (ho : r.optional? i k read = some o) :
    o.map write = (r.get? i k).bind fun v => if v = .null then none else some (spell v) := by
  unfold Record.optional? at ho
  split at ho
  · rename_i hget
    cases ho
    rw [hget]
    rfl
  · rename_i hget
    cases ho
    rw [hget]
    rfl
  · rename_i v hv hget
    obtain ⟨a, ha, rfl⟩ := Option.map_eq_some_iff.1 ho
    rw [hget, Option.map_some, Option.bind_some, if_neg hv, h (hr i k v hget) ha]

end

/-! ## Records given as lists -/

/-- A record given as the list of the values of its fields, as the object of these. -/
def asObject (names : List String) : Json → Json
  | .arr xs => mkObj (names.zip xs)
  | j => j

/-- Changes and drops the fields of an object by their names. -/
def filterMapFields (f : String → Json → Option Json) : Json → Json
  | .obj es => .obj (es.filterMap fun e => (f e.1 e.2).map fun v => (e.1, v))
  | j => j

theorem filterMapFields_ofDict (f : String → Json → Option Json) (d : Dict Json) :
    (ofDict d).filterMapFields f = ofDict (d.filterMap f) := rfl

/-- An object is made of another by changing and dropping fields if every name is looked up so. -/
theorem ofDict_eq_filterMapFields {d e : Dict Json} {f : String → Json → Option Json}
    (h : ∀ k, e.get? k = (d.get? k).bind (f k)) : ofDict e = (ofDict d).filterMapFields f := by
  have he : e = d.filterMap f := Dict.ext_get? fun k => by rw [h, Dict.get?_filterMap]
  rw [he, filterMapFields_ofDict]

theorem get?_zip {names : List String} {k : String} (hnodup : names.Nodup) :
    ∀ {i : Nat} {xs : List Json}, names[i]? = some k → Entries.get? k (names.zip xs) = xs[i]? := by
  induction names with
  | nil =>
      intro i xs h
      cases h
  | cons name names ih =>
      intro i xs h
      rw [List.nodup_cons] at hnodup
      cases xs with
      | nil => simp [Entries.get?]
      | cons x xs =>
          rw [List.zip_cons_cons, Entries.get?]
          -- A later name is not the first one, since no name occurs twice.
          cases i with
          | zero =>
              obtain rfl : name = k := by simpa using h
              simp
          | succ i =>
              have hi : names[i]? = some k := by simpa using h
              have hne : k ≠ name := fun heq => hnodup.1 (heq ▸ List.mem_of_getElem? hi)
              rw [if_neg hne, ih hnodup.2 hi, List.getElem?_cons_succ]

theorem nodup_keys_zip {names : List String} (hnodup : names.Nodup) (xs : List Json) :
    ((names.zip xs).map Prod.fst).Nodup := by
  induction names generalizing xs with
  | nil => exact .nil
  | cons name names ih =>
      rw [List.nodup_cons] at hnodup
      cases xs with
      | nil => exact .nil
      | cons x xs =>
          rw [List.zip_cons_cons, List.map_cons, List.nodup_cons]
          refine ⟨fun hmem => ?_, ih hnodup.2 xs⟩
          obtain ⟨e, he, hname⟩ := List.mem_map.1 hmem
          have hhead : e.1 = name := hname
          exact hnodup.1 (hhead ▸ (List.of_mem_zip he).1)

/-- The fields of a record are those of its object, whichever way it is given. -/
theorem exists_dict_of_record? {names : List String} (hnodup : names.Nodup) {j : Json}
    (hj : j.Ordered) {r : Record} (h : j.record? names = some r) :
    ∃ d : Dict Json, j.asObject names = ofDict d ∧
      ∀ i k, names[i]? = some k → r.get? i k = d.get? k := by
  cases j with
  | obj es =>
      obtain rfl : .named es = r := Option.some.inj h
      exact ⟨⟨es, hj.ascending⟩, rfl, fun _ _ _ => rfl⟩
  | arr xs =>
      rw [record?] at h
      split at h
      · obtain rfl : .listed xs = r := Option.some.inj h
        refine ⟨.ofList (names.zip xs), rfl, fun i k hi => ?_⟩
        rw [Dict.get?_ofList, Entries.get?_reverse (nodup_keys_zip hnodup xs), get?_zip hnodup hi]
        rfl
      · cases h
  | null | bool | int | float | str => cases h

end Json

end PagePress
