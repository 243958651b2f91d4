import PagePress.Dict

/-!
# Dictionary — what a list of entries makes of a dictionary

* `Dict.mem_ofList`: every entry of a dictionary is one of the entries it is made of, and all of
  them are if no key occurs twice;
* `Dict.get?_eq_some_iff`: the value of a key is the one of its entry;
* `Dict.get?_ofList`: of several values given for a key the last one counts;
* `Entries.Ascending.ext`: ascending entries are determined by the values of the keys;
* `Dict.ofList_entries`: the entries of a dictionary make the dictionary.
-/

namespace PagePress

variable {α β : Type}

namespace Entries

/-- An entry behind all others is stored at the end. -/
theorem put_of_lt {k : String} {v : α} :
    ∀ {es : List (String × α)}, (∀ e ∈ es, e.1 < k) → put k v es = es ++ [(k, v)] := by
  intro es
  induction es with
  | nil =>
      intro _
      rfl
  | cons e es ih =>
      intro h
      -- The key is not less than the first one and differs from it, so it goes further.
      have hlt : e.1 < k := h e (List.mem_cons_self ..)
      have hnlt : ¬ k < e.1 := fun h' => String.lt_irrefl _ (String.lt_trans hlt h')
      have hne : k ≠ e.1 := fun h' => String.lt_irrefl k (h' ▸ hlt)
      rw [put, if_neg hnlt, if_neg hne, ih fun x hx => h x (List.mem_cons_of_mem _ hx),
        List.cons_append]

theorem get?_put (k k' : String) (v : α) (es : List (String × α)) :
    get? k' (put k v es) = if k' = k then some v else get? k' es := by
  induction es with
  | nil => simp [put, get?]
  | cons e es ih =>
      rw [put]
      split
      · rw [get?]
      · split
        · rename_i heq
          subst heq
          by_cases hk : k' = e.1 <;> simp [get?, hk]
        · rename_i hne
          by_cases hk : k' = e.1
          · simp [get?, hk, Ne.symm hne]
          · simp [get?, hk, ih]

theorem mem_keys_of_get? {k : String} {v : α} {es : List (String × α)} (h : get? k es = some v) :
    k ∈ es.map Prod.fst := by
  induction es with
  | nil => cases h
  | cons e es ih =>
      rw [get?] at h
      rw [List.map_cons, List.mem_cons]
      split at h
      · exact .inl ‹_›
      · exact .inr (ih h)

theorem get?_eq_none {k : String} {es : List (String × α)} (h : k ∉ es.map Prod.fst) :
    get? k es = none := by
  cases hget : get? k es with
  | none => rfl
  | some v => exact absurd (mem_keys_of_get? hget) h

theorem mem_of_get? {k : String} {v : α} {es : List (String × α)} (h : get? k es = some v) :
    (k, v) ∈ es := by
  induction es with
  | nil => cases h
  | cons e es ih =>
      rw [get?] at h
      split at h
      · rename_i hk
        have he : e = (k, v) := Prod.ext hk.symm (Option.some.inj h)
        exact he ▸ List.mem_cons_self ..
      · exact List.mem_cons_of_mem _ (ih h)

/-- If no key occurs twice, a key has the value that is stored under it. -/
theorem get?_eq_some_iff {k : String} {v : α} {es : List (String × α)}
    (h : (es.map Prod.fst).Nodup) : get? k es = some v ↔ (k, v) ∈ es := by
  induction es with
  | nil => simp [get?]
  | cons e es ih =>
      rw [List.map_cons, List.nodup_cons] at h
      rw [get?, List.mem_cons]
      split
      · rename_i hk
        subst hk
        have hnot : (e.1, v) ∉ es := fun hmem => h.1 (List.mem_map.2 ⟨_, hmem, rfl⟩)
        simp [hnot, Prod.ext_iff, eq_comm]
      · rename_i hk
        have hne : (k, v) ≠ e := fun h => hk (congrArg Prod.fst h)
        rw [ih h.2, or_iff_right hne]

/-- If no key occurs twice, the order of the entries does not matter for a lookup. -/
theorem get?_reverse {k : String} {es : List (String × α)} (h : (es.map Prod.fst).Nodup) :
    get? k es.reverse = get? k es := by
  have hreverse : (es.reverse.map Prod.fst).Nodup := by
    rw [List.map_reverse, List.Nodup, List.pairwise_reverse]
    exact h.imp Ne.symm
  refine Option.ext fun v => ?_
  rw [get?_eq_some_iff h, get?_eq_some_iff hreverse, List.mem_reverse]

theorem get?_append (k : String) (es fs : List (String × α)) :
    get? k (es ++ fs) = (get? k es).or (get? k fs) := by
  induction es with
  | nil => rfl
  | cons e es ih =>
      rw [List.cons_append, get?, get?]
      split
      · rfl
      · exact ih

/-- Changing and dropping values by their key changes the lookup of the key in the same way, since
no other entry has the key. -/
theorem get?_filterMap {f : String → α → Option β} {k : String} {es : List (String × α)}
    (h : (es.map Prod.fst).Nodup) :
    get? k (es.filterMap fun e => (f e.1 e.2).map fun v => (e.1, v)) = (get? k es).bind (f k) := by
  induction es with
  | nil => rfl
  | cons e es ih =>
      rw [List.map_cons, List.nodup_cons] at h
      by_cases hk : k = e.1
      · subst hk
        have hrest : get? e.1 es = none := get?_eq_none h.1
        cases hf : f e.1 e.2 with
        | none => simp [get?, hf, ih h.2, hrest]
        | some v => simp [get?, hf]
      · cases hf : f e.1 e.2 with
        | none => simp [get?, hf, hk, ih h.2]
        | some v => simp [get?, hf, hk, ih h.2]

theorem Ascending.nodup_keys {es : List (String × α)} (h : Ascending es) :
    (es.map Prod.fst).Nodup := by
  rw [List.Nodup, List.pairwise_map]
  refine h.imp ?_
  intro a b hlt heq
  exact String.lt_irrefl b.1 (heq ▸ hlt)

theorem Ascending.nodup {es : List (String × α)} (h : Ascending es) : es.Nodup := by
  refine List.Pairwise.imp ?_ h
  rintro a b hlt rfl
  exact String.lt_irrefl a.1 hlt

theorem Ascending.filterMap {f : String → α → Option β} {es : List (String × α)}
    (h : Ascending es) : Ascending (es.filterMap fun e => (f e.1 e.2).map fun v => (e.1, v)) := by
  refine List.pairwise_filterMap.2 (h.imp ?_)
  intro a b hlt a' ha b' hb
  obtain ⟨v, -, rfl⟩ := Option.map_eq_some_iff.1 ha
  obtain ⟨w, -, rfl⟩ := Option.map_eq_some_iff.1 hb
  exact hlt

/-- Ascending entries are determined by the values of the keys. -/
theorem Ascending.ext {es fs : List (String × α)} (hes : Ascending es) (hfs : Ascending fs)
    (h : ∀ k, get? k es = get? k fs) : es = fs := by
  have hmem : ∀ e, e ∈ es ↔ e ∈ fs := by
    intro e
    rw [← get?_eq_some_iff hes.nodup_keys, ← get?_eq_some_iff hfs.nodup_keys, h]
  -- Neither list repeats an entry, so they are permutations, and both are sorted.
  have hperm : es.Perm fs :=
    (List.perm_ext_iff_of_nodup hes.nodup hfs.nodup).2 hmem
  refine hperm.eq_of_pairwise ?_ hes hfs
  intro a b _ _ hab hba
  exact absurd (String.lt_trans hab hba) (String.lt_irrefl _)

end Entries

namespace Dict

theorem mem_insert {d : Dict α} {k : String} {v : α} {e : String × α}
    (h : e ∈ (d.insert k v).entries) : e = (k, v) ∨ e ∈ d.entries :=
  Entries.mem_put h

theorem mem_foldl_insert {e : String × α} :
    ∀ {es : List (String × α)} {d : Dict α},
      e ∈ (es.foldl (fun d e => d.insert e.1 e.2) d).entries → e ∈ es ∨ e ∈ d.entries := by
  intro es
  induction es with
  | nil =>
      intro d h
      exact .inr h
  | cons x es ih =>
      intro d h
      rcases ih h with h | h
      · exact .inl (List.mem_cons_of_mem _ h)
      · rcases mem_insert h with rfl | h
        · exact .inl (List.mem_cons_self ..)
        · exact .inr h

theorem mem_ofList {es : List (String × α)} {e : String × α} (h : e ∈ (ofList es).entries) :
    e ∈ es := by
  rcases mem_foldl_insert h with h | h
  · exact h
  · cases h

/-- What holds of the entries that a dictionary is made of holds of its entries. -/
theorem forall_mem_ofList {P : String × α → Prop} {es : List (String × α)} (h : ∀ e ∈ es, P e) :
    ∀ e ∈ (ofList es).entries, P e :=
  fun e he => h e (mem_ofList he)

-- The dictionary stays general: it grows at its end with every entry.
theorem foldl_insert_entries (es : List (String × α)) :
    ∀ (d : Dict α), Entries.Ascending (d.entries ++ es) →
      (es.foldl (fun d e => d.insert e.1 e.2) d).entries = d.entries ++ es := by
  induction es with
  | nil =>
      intro d _
      simp
  | cons e es ih =>
      intro d h
      have hsplit := List.pairwise_append.1 h
      have hbefore : ∀ x ∈ d.entries, x.1 < e.1 :=
        fun x hx => hsplit.2.2 x hx e (List.mem_cons_self ..)
      have hput : (d.insert e.1 e.2).entries = d.entries ++ [e] := Entries.put_of_lt hbefore
      rw [List.foldl_cons, ih _ (by simpa [hput] using h), hput, List.append_assoc,
        List.singleton_append]

/-- The entries of a dictionary make the dictionary. -/
theorem ofList_entries (d : Dict α) : ofList d.entries = d := by
  apply Dict.ext
  have hempty : (empty : Dict α).entries = [] := rfl
  have h := foldl_insert_entries d.entries empty
    (by simpa [hempty] using d.ascending)
  simpa [ofList, hempty] using h

/-! ## Lookups -/

theorem get?_insert (d : Dict α) (k k' : String) (v : α) :
    (d.insert k v).get? k' = if k' = k then some v else d.get? k' :=
  Entries.get?_put k k' v d.entries

theorem nodup_keys (d : Dict α) : (d.entries.map Prod.fst).Nodup := d.ascending.nodup_keys

theorem get?_eq_some_iff {d : Dict α} {k : String} {v : α} :
    d.get? k = some v ↔ (k, v) ∈ d.entries :=
  Entries.get?_eq_some_iff d.nodup_keys

-- The induction is on the entries still to come; those stored already stay general.
theorem get?_foldl_insert (k : String) (es : List (String × α)) :
    ∀ d : Dict α, (es.foldl (fun d e => d.insert e.1 e.2) d).get? k =
      (Entries.get? k es.reverse).or (d.get? k) := by
  induction es with
  | nil =>
      intro d
      rfl
  | cons e es ih =>
      intro d
      rw [List.foldl_cons, ih, get?_insert, List.reverse_cons, Entries.get?_append, Option.or_assoc]
      by_cases hk : k = e.1 <;> simp [Entries.get?, hk]

/-- The last value given for a key is the one that is stored. -/
theorem get?_ofList (k : String) (es : List (String × α)) :
    (ofList es).get? k = Entries.get? k es.reverse := by
  rw [ofList, get?_foldl_insert]
  exact Option.or_none

@[simp] theorem get?_ofList_nil (k : String) : (ofList ([] : List (String × α))).get? k = none :=
  rfl

@[simp] theorem get?_ofList_append (k : String) (es fs : List (String × α)) :
    (ofList (es ++ fs)).get? k = ((ofList fs).get? k).or ((ofList es).get? k) := by
  rw [get?_ofList, get?_ofList, get?_ofList, List.reverse_append, Entries.get?_append]

@[simp] theorem get?_ofList_cons (k : String) (e : String × α) (es : List (String × α)) :
    (ofList (e :: es)).get? k =
      ((ofList es).get? k).or (if k = e.1 then some e.2 else none) := by
  rw [get?_ofList, get?_ofList, List.reverse_cons, Entries.get?_append]
  rfl

/-- The entry of a value that may be missing. -/
@[simp] theorem get?_ofList_toList (k k' : String) (f : β → α) (v : Option β) :
    (ofList (v.map fun a => (k', f a)).toList).get? k = if k = k' then v.map f else none := by
  cases v <;> simp

/-- The entries of values that may be missing, each under its own key. -/
theorem get?_ofList_flatMap {k : String} {vs : List (String × Option α)}
    (h : (vs.map Prod.fst).Nodup) :
    (ofList (vs.flatMap fun e => (e.2.map fun v => (e.1, v)).toList)).get? k =
      (Entries.get? k vs).join := by
  induction vs with
  | nil => rfl
  | cons e vs ih =>
      rw [List.map_cons, List.nodup_cons] at h
      have hhead := get?_ofList_toList k e.1 id e.2
      rw [Option.map_id_fun, id] at hhead
      rw [List.flatMap_cons, get?_ofList_append, ih h.2, Entries.get?]
      refine (congrArg (Option.or _) hhead).trans ?_
      by_cases hk : k = e.1
      · subst hk
        simp [Entries.get?_eq_none h.1]
      · simp [hk]

/-- Changes and drops values by their key. -/
def filterMap (f : String → α → Option β) (d : Dict α) : Dict β :=
  ⟨d.entries.filterMap fun e => (f e.1 e.2).map fun v => (e.1, v), d.ascending.filterMap⟩

theorem get?_filterMap (f : String → α → Option β) (d : Dict α) (k : String) :
    (d.filterMap f).get? k = (d.get? k).bind (f k) :=
  Entries.get?_filterMap d.nodup_keys

/-- A dictionary is determined by the values of the keys. -/
theorem ext_get? {d e : Dict α} (h : ∀ k, d.get? k = e.get? k) : d = e :=
  Dict.ext (d.ascending.ext e.ascending h)

theorem get?_filterKeys (d : Dict α) (keep : String → Bool) (k : String) :
    (d.filterKeys keep).get? k = if keep k then d.get? k else none := by
  refine Option.ext fun v => ?_
  rw [get?_eq_some_iff]
  by_cases hk : keep k = true <;> simp [filterKeys, hk, get?_eq_some_iff]

/-! ## Members -/

/-- Entries with different keys make a dictionary of just these entries. -/
theorem mem_ofList_iff {es : List (String × α)} (h : (es.map Prod.fst).Nodup) {e : String × α} :
    e ∈ (ofList es).entries ↔ e ∈ es := by
  rw [← get?_eq_some_iff, get?_ofList, Entries.get?_reverse h, Entries.get?_eq_some_iff h]

/-- Later entries with different keys are kept, whatever stands before them. -/
theorem mem_ofList_append_right {es fs : List (String × α)} (h : (fs.map Prod.fst).Nodup)
    {e : String × α} (he : e ∈ fs) : e ∈ (ofList (es ++ fs)).entries := by
  have hget : Entries.get? e.1 fs = some e.2 := (Entries.get?_eq_some_iff h).2 he
  rw [← get?_eq_some_iff, get?_ofList, List.reverse_append, Entries.get?_append,
    Entries.get?_reverse h, hget, Option.some_or]

end Dict

end PagePress
