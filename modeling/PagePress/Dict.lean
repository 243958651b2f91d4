/-!
# Dictionaries — text keys in ascending order

A dictionary is an association list whose keys ascend strictly, so that equal
dictionaries are equal values and every listing is in key order.

* `Entries.put`, `Entries.get?`, `Entries.erase` work on bare association lists;
* `Dict` carries the proof that its keys ascend;
* `Dict.ofList` keeps the last value given for a key.
-/

namespace PagePress

/-! ## Bare association lists -/

namespace Entries

/-- Keys ascend strictly, hence occur once. -/
abbrev Ascending {α : Type} (es : List (String × α)) : Prop :=
  es.Pairwise fun a b => a.1 < b.1

/-- Adds a value at its place in key order, replacing the value of an equal key. -/
def put {α : Type} (k : String) (v : α) : List (String × α) → List (String × α)
  | [] => [(k, v)]
  | (k', v') :: rest =>
    if k < k' then (k, v) :: (k', v') :: rest
    else if k = k' then (k, v) :: rest
    else (k', v') :: put k v rest

/-- The first value stored under a key. -/
def get? {α : Type} (k : String) : List (String × α) → Option α
  | [] => none
  | (k', v') :: rest => if k = k' then some v' else get? k rest

/-- Removes every entry of a key. -/
def erase {α : Type} (k : String) (es : List (String × α)) : List (String × α) :=
  es.filter fun e => e.1 != k

theorem mem_put {α : Type} {k : String} {v : α} {e : String × α} :
    ∀ {es : List (String × α)}, e ∈ put k v es → e = (k, v) ∨ e ∈ es
  | [], h => by simpa [put] using h
  | (k', v') :: rest, h => by
    unfold put at h
    split at h
    · simpa using h
    · split at h
      · rcases List.mem_cons.1 h with h | h
        · exact .inl h
        · exact .inr (List.mem_cons_of_mem _ h)
      · rcases List.mem_cons.1 h with h | h
        · exact .inr (h ▸ List.mem_cons_self ..)
        · exact (mem_put h).imp id (List.mem_cons_of_mem _)

theorem ascending_put {α : Type} (k : String) (v : α) :
    ∀ {es : List (String × α)}, Ascending es → Ascending (put k v es)
  | [], _ => by simp [put]
  | (k', v') :: rest, h => by
    have hrest := (List.pairwise_cons.1 h).2
    have hhead := (List.pairwise_cons.1 h).1
    unfold put
    split
    · rename_i hlt
      refine List.pairwise_cons.2 ⟨fun e he => ?_, h⟩
      rcases List.mem_cons.1 he with rfl | he
      · exact hlt
      · exact String.lt_trans hlt (hhead e he)
    · split
      · rename_i heq
        subst heq
        exact List.pairwise_cons.2 ⟨hhead, hrest⟩
      · rename_i hnlt hne
        refine List.pairwise_cons.2 ⟨fun e he => ?_, ascending_put k v hrest⟩
        rcases mem_put he with rfl | he
        · rcases Classical.em (k' < k) with hlt | hnlt'
          · exact hlt
          · exact absurd (String.le_antisymm (String.not_lt.1 hnlt') (String.not_lt.1 hnlt)) hne
        · exact hhead e he

theorem ascending_erase {α : Type} (k : String) {es : List (String × α)} (h : Ascending es) :
    Ascending (erase k es) :=
  h.filter _

end Entries

/-! ## Dictionaries -/

/-- A finite map from text to `α`, listed in ascending key order. -/
structure Dict (α : Type) where
  /-- The entries in ascending key order. -/
  entries : List (String × α)
  /-- No key occurs twice and the keys ascend. -/
  ascending : Entries.Ascending entries
deriving DecidableEq

namespace Dict

variable {α β : Type}

/-- The dictionary without entries. -/
def empty : Dict α := ⟨[], .nil⟩

instance : EmptyCollection (Dict α) := ⟨empty⟩

instance : Inhabited (Dict α) := ⟨empty⟩

/-- Stores a value under a key, replacing an earlier one. -/
def insert (d : Dict α) (k : String) (v : α) : Dict α :=
  ⟨Entries.put k v d.entries, Entries.ascending_put k v d.ascending⟩

/-- The value stored under a key. -/
def get? (d : Dict α) (k : String) : Option α := Entries.get? k d.entries

/-- Whether a key has a value. -/
def contains (d : Dict α) (k : String) : Bool := (d.get? k).isSome

/-- Forgets a key. -/
def erase (d : Dict α) (k : String) : Dict α :=
  ⟨Entries.erase k d.entries, Entries.ascending_erase k d.ascending⟩

/-- Keeps the entries whose key passes. -/
def filterKeys (d : Dict α) (keep : String → Bool) : Dict α :=
  ⟨d.entries.filter fun e => keep e.1, d.ascending.filter _⟩

/-- The dictionary of a list of entries; a later value replaces an earlier one of its key. -/
def ofList (es : List (String × α)) : Dict α :=
  es.foldl (fun d e => d.insert e.1 e.2) empty

/-- The entries in ascending key order. -/
def toList (d : Dict α) : List (String × α) := d.entries

/-- Whether there is no entry. -/
def isEmpty (d : Dict α) : Bool := d.entries.isEmpty

/-- The keys in ascending order. -/
def keys (d : Dict α) : List String := d.entries.map (·.1)

/-- Changes every value, keeping the keys. -/
def mapValues (f : α → β) (d : Dict α) : Dict β :=
  ⟨d.entries.map fun e => (e.1, f e.2), by
    rw [Entries.Ascending, List.pairwise_map]; exact d.ascending⟩

/-- Stores every entry of the second dictionary in the first. -/
def union (d e : Dict α) : Dict α :=
  e.entries.foldl (fun acc x => acc.insert x.1 x.2) d

@[ext]
theorem ext {d e : Dict α} (h : d.entries = e.entries) : d = e := by
  cases d; cases e; cases h; rfl

end Dict

end PagePress
