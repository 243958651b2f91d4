import PagePress.Proofs.Dictionary
import PagePress.Schema.Rules

/-!
# Acceptance — what each keyword of a schema asks

* `Schema.Accepts` says that a schema without references finds nothing wrong with a value;
* one lemma for each keyword says what that comes to for a value of the kind it is about;
* `Regex.found_entire`: which texts have characters of one class only.
-/

namespace PagePress

namespace Regex

/-! ## Texts of one class of characters -/

variable {s : CharSet}

/-- What is left of such an expression after a first character of the class. -/
def remaining (s : CharSet) : Regex := .seq (.star (.chars s)) .stop

/-- A text of at least one character, all of a class. -/
def entire (s : CharSet) : Regex := .seq (.seq .start (plus (.chars s))) .stop

theorem derive_entire_none (c : Char) :
    derive none c (entire s) = if s.mem c then remaining s else .never := by
  by_cases h : s.mem c = true <;>
    simp [entire, plus, remaining, derive, nullable, thenMatch, orMatch, h]

theorem derive_entire_some (b c : Char) : derive (some b) c (entire s) = .never := by
  simp [entire, derive, nullable, thenMatch]

theorem derive_remaining (before : Option Char) (c : Char) :
    derive before c (remaining s) = if s.mem c then remaining s else .never := by
  by_cases h : s.mem c = true <;>
    simp [remaining, derive, nullable, thenMatch, orMatch, h]

theorem nullable_entire (before after : Option Char) :
    nullable before after (entire s) = false := by
  simp [entire, plus, nullable]

theorem nullable_remaining (before after : Option Char) :
    nullable before after (remaining s) = after.isNone := by
  simp [remaining, nullable]

theorem remaining_ne_never : remaining s ≠ .never := by
  simp [remaining]

theorem foundFrom_nil (b : Char) (cs : List Char) :
    foundFrom (entire s) (some b) [] cs = false := by
  -- Behind a first character no attempt starts anew.
  induction cs generalizing b with
  | nil => simp [foundFrom, nullable_entire]
  | cons c cs ih =>
      rw [foundFrom]
      simp [derive_entire_some, nullable_entire, ih]

theorem foundFrom_remaining (b : Char) (cs : List Char) :
    foundFrom (entire s) (some b) [remaining s] cs = cs.all fun c => s.mem c := by
  -- The one attempt goes on as long as the characters are of the class.
  induction cs generalizing b with
  | nil => simp [foundFrom, nullable_remaining]
  | cons c cs ih =>
      rw [foundFrom]
      by_cases h : s.mem c = true
      · simp [derive_entire_some, derive_remaining, nullable_entire, nullable_remaining,
          remaining_ne_never, List.eraseDups_cons, h, ih]
      · simp [derive_entire_some, derive_remaining, nullable_entire, nullable_remaining, h,
          foundFrom_nil]

/-- The expression is found in texts that are not empty and have no other characters. -/
theorem found_entire (t : String) :
    found (entire s) t = true ↔ t ≠ "" ∧ ∀ c ∈ t.toList, s.mem c = true := by
  rw [found]
  cases h : t.toList with
  | nil =>
      have ht : t = "" := String.toList_eq_nil_iff.1 h
      simp [foundFrom, nullable_entire, ht]
  | cons c cs =>
      have ht : t ≠ "" := fun e => by simp [e] at h
      rw [foundFrom]
      by_cases hc : s.mem c = true
      · simp [derive_entire_none, nullable_entire, remaining_ne_never, List.eraseDups_cons,
          foundFrom_remaining, hc, ht]
      · simp [derive_entire_none, nullable_entire, foundFrom_nil, hc]

end Regex

namespace Schema

/-- Nothing is wrong with a value that stands at a place. -/
def Accepts (p : Place) (s : Schema) (j : Json) : Prop := plainRule s p j = []

/-- A keyword finds nothing wrong with a value. -/
def Keyword.Accepts (p : Place) (k : Keyword) (j : Json) : Prop :=
  keywordRule (fun _ _ _ => []) k p j = []

variable {p : Place}

/-! ## Lists of schemas -/

theorem keywordRules_eq_map (target : String → Rule) (ks : List Keyword) :
    keywordRules target ks = ks.map (keywordRule target) := by
  induction ks with
  | nil => rfl
  | cons k ks ih => rw [keywordRules, ih, List.map_cons]

theorem rules_eq_map (target : String → Rule) (ss : List Schema) :
    rules target ss = ss.map (rule target) := by
  induction ss with
  | nil => rfl
  | cons s ss ih => rw [rules, ih, List.map_cons]

theorem namedRules_eq_map (target : String → Rule) (named : List (String × Schema)) :
    namedRules target named = named.map fun n => (n.1, rule target n.2) := by
  induction named with
  | nil => rfl
  | cons n named ih => rw [namedRules, ih, List.map_cons]

theorem get?_namedRules (target : String → Rule) (named : List (String × Schema)) (k : String) :
    Entries.get? k (namedRules target named) = (Entries.get? k named).map (rule target) := by
  induction named with
  | nil => rfl
  | cons n named ih =>
      rw [namedRules, Entries.get?, Entries.get?, ih]
      split <;> rfl

/-- A schema accepts what all of its keywords accept. -/
theorem accepts_all {ks : List Keyword} {j : Json} :
    Accepts p (.all ks) j ↔ ∀ k ∈ ks, k.Accepts p j := by
  unfold Accepts plainRule
  rw [rule, keywordRules_eq_map]
  simp [Keyword.Accepts]

/-! ## Single values -/

theorem Rule.test_eq_nil {passes : Json → Bool} {message : Json → String} {j : Json} :
    Rule.test passes message p j = [] ↔ passes j = true := by
  unfold Rule.test
  split <;> simp_all

theorem accepts_type {ks : List Kind} {j : Json} :
    (Keyword.type ks).Accepts p j ↔ ∃ k ∈ ks, k.covers j = true := by
  -- The rule of a keyword is named as it computes; its equations are many and slow to derive.
  show Rule.test (fun j => ks.any fun k => k.covers j) _ p j = [] ↔ _
  rw [Rule.test_eq_nil, List.any_eq_true]

theorem accepts_enum {vs : List Json} {j : Json} :
    (Keyword.enum vs).Accepts p j ↔ ∃ v ∈ vs, j.same v = true := by
  show Rule.test (fun j => vs.any fun v => j.same v) _ p j = [] ↔ _
  rw [Rule.test_eq_nil, List.any_eq_true]

theorem accepts_minimum {n m : Int} :
    (Keyword.minimum (.int n)).Accepts p (.int m) ↔ n ≤ m := by
  show limitRule _ _ _ p (.int m) = [] ↔ _
  rw [limitRule, Rule.test_eq_nil]
  simp [Json.quotient?, Json.Quotient.le]

theorem accepts_maximum {n m : Int} :
    (Keyword.maximum (.int n)).Accepts p (.int m) ↔ m ≤ n := by
  show limitRule _ _ _ p (.int m) = [] ↔ _
  rw [limitRule, Rule.test_eq_nil]
  simp [Json.quotient?, Json.Quotient.le]

theorem accepts_oneOf_left {s t : Schema} {j : Json} (hs : Accepts [] s j) (ht : ¬ Accepts [] t j) :
    (Keyword.oneOf [s, t]).Accepts p j := by
  have hs' : (rule (fun _ _ _ => []) s).fits j = true := List.isEmpty_iff.2 hs
  have ht' : (rule (fun _ _ _ => []) t).fits j = false := by
    rw [← Bool.not_eq_true]
    exact fun h => ht (List.isEmpty_iff.1 h)
  show oneRule (rules _ [s, t]) p j = []
  rw [rules_eq_map, oneRule]
  simp [hs', ht']

theorem accepts_oneOf_right {s t : Schema} {j : Json} (hs : ¬ Accepts [] s j)
    (ht : Accepts [] t j) : (Keyword.oneOf [s, t]).Accepts p j := by
  have hs' : (rule (fun _ _ _ => []) s).fits j = false := by
    rw [← Bool.not_eq_true]
    exact fun h => hs (List.isEmpty_iff.1 h)
  have ht' : (rule (fun _ _ _ => []) t).fits j = true := List.isEmpty_iff.2 ht
  show oneRule (rules _ [s, t]) p j = []
  rw [rules_eq_map, oneRule]
  simp [hs', ht']

/-! ## Items -/

theorem itemsFrom_eq_nil {α : Type} {r : Rule} {f : α → Json} {P : α → Prop} {xs : List α} :
    ∀ {i : Nat}, (∀ q, ∀ x ∈ xs, r q (f x) = [] ↔ P x) →
      (itemsFrom r p i (xs.map f) = [] ↔ ∀ x ∈ xs, P x) := by
  induction xs with
  | nil =>
      intro i _
      simp [itemsFrom]
  | cons x xs ih =>
      intro i h
      rw [List.map_cons, itemsFrom, List.append_eq_nil_iff, h _ x (List.mem_cons_self ..),
        ih fun q y hy => h q y (List.mem_cons_of_mem _ hy), List.forall_mem_cons]

/-- A list of encoded values is accepted if the values are, which may not depend on their
places. -/
theorem accepts_items {α : Type} {s : Schema} {f : α → Json} {P : α → Prop} {xs : List α}
    (h : ∀ q, ∀ x ∈ xs, Accepts q s (f x) ↔ P x) :
    (Keyword.items 0 s).Accepts p (.arr (xs.map f)) ↔ ∀ x ∈ xs, P x := by
  show itemsFrom _ p 0 (xs.map f) = [] ↔ _
  exact itemsFrom_eq_nil h

/-! ## Properties -/

theorem accepts_required {names : List String} {fs : List (String × Json)} :
    (Keyword.required names).Accepts p (.obj fs) ↔
      ∀ k ∈ names, (Entries.get? k fs).isSome = true := by
  show requiredRule names p (.obj fs) = [] ↔ _
  rw [requiredRule, List.map_eq_nil_iff, List.filter_eq_nil_iff]
  simp [Option.isSome_iff_ne_none]

theorem accepts_properties {named : List (String × Schema)} {fs : List (String × Json)} :
    (Keyword.properties named).Accepts p (.obj fs) ↔
      ∀ n ∈ named, ∀ v, Entries.get? n.1 fs = some v → Accepts (n.1 :: p) n.2 v := by
  show namedField (namedRules _ named) p fs = [] ↔ _
  simp only [namedField, namedRules_eq_map, List.flatMap_eq_nil_iff, List.forall_mem_map]
  refine forall_congr' fun n => forall_congr' fun _ => ?_
  cases Entries.get? n.1 fs <;> simp [Accepts, plainRule]

/-- Whether the fields of an object are accepted when every name has a schema. -/
theorem accepts_others {named : List (String × Schema)} {s : Schema} {fs : List (String × Json)} :
    (Keyword.others named [] s).Accepts p (.obj fs) ↔
      ∀ f ∈ fs, Accepts (f.1 :: p) ((Entries.get? f.1 named).getD s) f.2 := by
  show othersRule (namedRules _ named) (matchedRules _ []) (rule _ s) p (.obj fs) = [] ↔ _
  simp only [othersRule, matchedRules, List.flatMap_eq_nil_iff]
  refine forall_congr' fun f => forall_congr' fun _ => ?_
  simp only [isExpected, expectedField, matchedField, get?_namedRules]
  cases Entries.get? f.1 named <;> simp [Accepts, plainRule]

theorem matchedRules_eq_map (target : String → Rule) (matched : List (Pattern × Schema)) :
    matchedRules target matched = matched.map fun m => (m.1, rule target m.2) := by
  induction matched with
  | nil => rfl
  | cons m matched ih => rw [matchedRules, ih, List.map_cons]

theorem isExpected_iff {target : String → Rule} {named : List (String × Schema)}
    {matched : List (Pattern × Schema)} {k : String} :
    isExpected (namedRules target named) (matchedRules target matched) k = true ↔
      (Entries.get? k named).isSome = true ∨ ∃ m ∈ matched, m.1.regex.found k = true := by
  simp [isExpected, get?_namedRules, matchedRules_eq_map]

theorem expectedField_eq_nil {named : List (String × Schema)} {matched : List (Pattern × Schema)}
    {k : String} {v : Json} :
    expectedField (namedRules (fun _ _ _ => []) named) (matchedRules (fun _ _ _ => []) matched)
        p k v = [] ↔
      (∀ s, Entries.get? k named = some s → Accepts (k :: p) s v) ∧
        ∀ m ∈ matched, m.1.regex.found k = true → Accepts (k :: p) m.2 v := by
  rw [expectedField, List.append_eq_nil_iff]
  refine and_congr ?_ ?_
  · rw [get?_namedRules]
    cases Entries.get? k named <;> simp [Accepts, plainRule]
  · rw [matchedField, matchedRules_eq_map, List.flatMap_eq_nil_iff]
    simp only [List.filter_map, List.forall_mem_map, List.mem_filter, Function.comp_apply, and_imp]
    rfl

theorem ite_eq_nil_iff {c : Bool} {v : Violation} :
    (if c then [] else [v]) = [] ↔ c = true := by
  cases c <;> simp

/-- Whether the fields of an object are accepted when no other names may occur. -/
theorem accepts_noOthers {named : List (String × Schema)} {matched : List (Pattern × Schema)}
    {fs : List (String × Json)} :
    (Keyword.noOthers named matched).Accepts p (.obj fs) ↔
      ∀ f ∈ fs,
        ((Entries.get? f.1 named).isSome = true ∨ ∃ m ∈ matched, m.1.regex.found f.1 = true) ∧
          (∀ s, Entries.get? f.1 named = some s → Accepts (f.1 :: p) s f.2) ∧
          ∀ m ∈ matched, m.1.regex.found f.1 = true → Accepts (f.1 :: p) m.2 f.2 := by
  -- The rule first lists what is wrong with expected fields, then the other names.
  show noOthersRule (namedRules _ named) (matchedRules _ matched) p (.obj fs) = [] ↔ _
  rw [noOthersRule, List.append_eq_nil_iff, List.flatMap_eq_nil_iff]
  rw [ite_eq_nil_iff, List.isEmpty_iff, List.filter_eq_nil_iff]
  simp only [List.forall_mem_map, Bool.not_eq_true', Bool.not_eq_false, isExpected_iff,
    expectedField_eq_nil]
  constructor
  · intro h f hf
    exact ⟨h.2 f hf, h.1 f hf⟩
  · intro h
    exact ⟨fun f hf => (h f hf).2, fun f hf => (h f hf).1⟩

end Schema

end PagePress
