import PagePress.Json.Reader

/-!
# Ordered values — objects whose keys ascend, at every depth

An object is an association list, and a list can repeat a key or have its keys in any order.  Those
that come from a text do not.

* `Json.Ordered`: the keys of every object within the value ascend;
* `Json.ordered_of_read?`: a value that is read from a text is ordered.
-/

namespace PagePress

namespace Json

/-- The keys of every object within the value ascend. -/
inductive Ordered : Json → Prop where
  | null : Ordered .null
  | bool (b : Bool) : Ordered (.bool b)
  | int (n : Int) : Ordered (.int n)
  | float (x : Binary64) : Ordered (.float x)
  | str (s : String) : Ordered (.str s)
  | arr {xs : List Json} : (∀ x ∈ xs, Ordered x) → Ordered (.arr xs)
  | obj {es : List (String × Json)} :
      Entries.Ascending es → (∀ e ∈ es, Ordered e.2) → Ordered (.obj es)

theorem Ordered.items {xs : List Json} (h : (Json.arr xs).Ordered) : ∀ x ∈ xs, x.Ordered := by
  cases h
  assumption

theorem Ordered.ascending {es : List (String × Json)} (h : (Json.obj es).Ordered) :
    Entries.Ascending es := by
  cases h
  assumption

theorem Ordered.values {es : List (String × Json)} (h : (Json.obj es).Ordered) :
    ∀ e ∈ es, e.2.Ordered := by
  cases h
  assumption

/-! ## Numbers -/

variable {negative : Bool} {m : Nat} {e : Int} {cs rest : List Char} {v : Json}

theorem ordered_of_map_float {x : Option Binary64}
    (h : (x.map fun d => (Json.float d, cs)) = some (v, rest)) : v.Ordered := by
  obtain ⟨d, -, hd⟩ := Option.map_eq_some_iff.1 h
  obtain rfl : .float d = v := congrArg Prod.fst hd
  exact .float d

theorem ordered_of_finishFloat? (h : finishFloat? negative m e cs = some (v, rest)) :
    v.Ordered := by
  unfold finishFloat? at h
  repeat' split at h
  all_goals first | exact ordered_of_map_float h | cases h

theorem ordered_of_fraction? (h : fraction? negative m e cs = some (v, rest)) : v.Ordered := by
  unfold fraction? at h
  split at h
  · split at h
    · dsimp only at h
      split at h
      · exact ordered_of_finishFloat? h
      · exact ordered_of_finishFloat? h
    · cases h
  · cases h

theorem ordered_of_wholeNumber? (h : wholeNumber? negative m cs = some (v, rest)) : v.Ordered := by
  unfold wholeNumber? at h
  split at h
  · split at h
    · exact ordered_of_map_float h
    · cases h
      exact .int _
  · cases h
    exact .int _

-- Whatever the digits are, one of the three functions above reads the rest.
theorem ordered_of_number? (h : number? negative cs = some (v, rest)) : v.Ordered := by
  unfold number? at h
  dsimp only at h
  repeat' split at h
  all_goals first
    | exact ordered_of_fraction? h
    | exact ordered_of_finishFloat? h
    | exact ordered_of_wholeNumber? h
    | cases h

/-! ## Values -/

theorem ordered_of_word? {word : List Char} {w : Json} (hw : w.Ordered)
    (h : word? word w cs = some (v, rest)) : v.Ordered := by
  unfold word? at h
  split at h
  · cases h
    exact hw
  · cases h

-- Each call spends one unit of the work that is allowed, which is what the three recur on.  The
-- members of an object are put in order as they are read.
mutual

theorem ordered_of_readValue? : ∀ {fuel depth : Nat} {cs rest : List Char} {v : Json},
    readValue? fuel depth cs = some (v, rest) → v.Ordered
  | 0, _, _, _, _, h => by
    rw [readValue?] at h
    cases h
  | fuel + 1, depth, cs, rest, v, h => by
    rw [readValue?] at h
    split at h
    · exact ordered_of_word? .null h
    · exact ordered_of_word? (.bool true) h
    · exact ordered_of_word? (.bool false) h
    · exact ordered_of_number? h
    · obtain ⟨x, -, hx⟩ := Option.map_eq_some_iff.1 h
      obtain rfl : .str x.1 = v := congrArg Prod.fst hx
      exact .str x.1
    · split at h
      · cases h
      · split at h
        · cases h
          exact .arr nofun
        · have hnil : ∀ x ∈ ([] : List Json), x.Ordered := nofun
          exact ordered_of_readItems? hnil h
    · split at h
      · cases h
      · split at h
        · cases h
          exact .obj .nil nofun
        · exact ordered_of_readMembers? (.obj .nil nofun) h
    · exact ordered_of_number? h

theorem ordered_of_readItems? : ∀ {fuel depth : Nat} {acc : List Json} {cs rest : List Char}
    {v : Json}, (∀ x ∈ acc, x.Ordered) → readItems? fuel depth acc cs = some (v, rest) → v.Ordered
  | 0, _, _, _, _, _, _, h => by
    rw [readItems?] at h
    cases h
  | fuel + 1, depth, acc, cs, rest, v, hacc, h => by
    rw [readItems?] at h
    split at h
    · cases h
    · rename_i w _ hw
      have hcons : ∀ x ∈ w :: acc, x.Ordered :=
        List.forall_mem_cons.2 ⟨ordered_of_readValue? hw, hacc⟩
      split at h
      · exact ordered_of_readItems? hcons h
      · cases h
        exact .arr fun x hx => hcons x (List.mem_reverse.1 hx)
      · cases h

theorem ordered_of_readMembers? : ∀ {fuel depth : Nat} {acc : List (String × Json)}
    {cs rest : List Char} {v : Json}, (Json.obj acc).Ordered →
      readMembers? fuel depth acc cs = some (v, rest) → v.Ordered
  | 0, _, _, _, _, _, _, h => by
    rw [readMembers?] at h
    cases h
  | fuel + 1, depth, acc, cs, rest, v, hacc, h => by
    rw [readMembers?] at h
    split at h
    · split at h
      · cases h
      · rename_i k _ _
        split at h
        · split at h
          · cases h
          · rename_i w _ hw
            have hput : (Json.obj (Entries.put k w acc)).Ordered := by
              refine .obj (Entries.ascending_put k w hacc.ascending) fun e he => ?_
              rcases Entries.mem_put he with rfl | he
              · exact ordered_of_readValue? hw
              · exact hacc.values e he
            dsimp only at h
            split at h
            · exact ordered_of_readMembers? hput h
            · cases h
              exact hput
            · cases h
        · cases h
    · cases h

end

/-- A value that is read from a text is ordered. -/
theorem ordered_of_read? {text : String} {j : Json} (h : read? text = some j) : j.Ordered := by
  unfold read? at h
  dsimp only at h
  split at h
  · rename_i hread
    split at h
    · cases h
      exact ordered_of_readValue? hread
    · cases h
  · cases h

end Json

end PagePress
