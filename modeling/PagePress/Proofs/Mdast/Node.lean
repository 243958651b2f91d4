import PagePress.Mdast.Codec

/-!
# Nodes in order

* `Node.walk_trans`: a walk meets what is below a node that it meets;
* `Node.Conforms` is what can be asked of a node itself: a standard type, a heading level from one
  to six, and a position that counts lines and columns from one;
* `Node.Sound` are the trees all of whose nodes conform and have standard fields only.
-/

namespace PagePress

namespace Mdast

/-! ## Walks -/

namespace Node

theorem mem_walkAll {m : Node} {ns : List Node} : m ∈ walkAll ns ↔ ∃ n ∈ ns, m ∈ n.walk := by
  induction ns with
  | nil => simp [walkAll]
  | cons n ns ih => simp [walkAll, ih]

theorem walkAll_eq_flatMap (ns : List Node) : walkAll ns = ns.flatMap walk := by
  induction ns with
  | nil => rfl
  | cons n ns ih => rw [walkAll, List.flatMap_cons, ih]

theorem walkAll_append (ms ns : List Node) : walkAll (ms ++ ns) = walkAll ms ++ walkAll ns := by
  induction ms with
  | nil => rfl
  | cons m ms ih => simp [walkAll, ih]

theorem mem_walk_self (n : Node) : n ∈ n.walk := by
  cases n
  simp [walk]

mutual

/-- What a walk meets in a node that it meets, it meets itself. -/
theorem walk_trans {k m : Node} (hk : k ∈ m.walk) : ∀ {n : Node}, m ∈ n.walk → k ∈ n.walk
  | .mk t f cs, h => by
    rw [walk] at h
    rcases List.mem_cons.1 h with rfl | h
    · exact hk
    · rw [walk]
      exact List.mem_cons_of_mem _ (walkAll_trans hk h)

theorem walkAll_trans {k m : Node} (hk : k ∈ m.walk) :
    ∀ {ns : List Node}, m ∈ walkAll ns → k ∈ walkAll ns
  | [], h => nomatch h
  | n :: ns, h => by
    rw [walkAll, List.mem_append] at h ⊢
    rcases h with h | h
    · exact .inl (walk_trans hk h)
    · exact .inr (walkAll_trans hk h)

end

mutual

/-- A property that a node has if all nodes below it have it holds of every node. -/
theorem forall_mem_walk {P : Node → Prop}
    (step : ∀ n, (∀ m ∈ walkAll n.children, P m) → P n) : ∀ n : Node, ∀ m ∈ n.walk, P m
  | .mk t f cs, m, h => by
    have hbelow := forall_mem_walkAll step cs
    rw [walk] at h
    rcases List.mem_cons.1 h with rfl | h
    · exact step _ hbelow
    · exact hbelow m h

theorem forall_mem_walkAll {P : Node → Prop}
    (step : ∀ n, (∀ m ∈ walkAll n.children, P m) → P n) :
    ∀ ns : List Node, ∀ m ∈ walkAll ns, P m
  | [], _, h => nomatch h
  | n :: ns, m, h => by
    rw [walkAll, List.mem_append] at h
    rcases h with h | h
    · exact forall_mem_walk step n m h
    · exact forall_mem_walkAll step ns m h

end

theorem mem_walkAll_of_mem {n : Node} {ns : List Node} (h : n ∈ ns) : n ∈ walkAll ns :=
  mem_walkAll.2 ⟨n, h, n.mem_walk_self⟩

/-- A walk meets the nodes below a node that it meets. -/
theorem walkAll_children_subset {m n : Node} (h : m ∈ n.walk) :
    ∀ k ∈ walkAll m.children, k ∈ n.walk := by
  intro k hk
  refine walk_trans ?_ h
  cases m
  rw [walk]
  exact List.mem_cons_of_mem _ hk

/-- A property that a node has if it passes a test and the nodes below it have the property holds
throughout a tree all of whose nodes pass. -/
theorem of_forall_mem_walk {P Q : Node → Prop}
    (step : ∀ n, P n → (∀ m ∈ walkAll n.children, P m ∧ Q m) → Q n) {n : Node}
    (h : ∀ m ∈ n.walk, P m) : ∀ m ∈ n.walk, Q m := by
  have hstep : ∀ n : Node, (∀ m ∈ walkAll n.children, (∀ k ∈ m.walk, P k) → Q m) →
      (∀ k ∈ n.walk, P k) → Q n := by
    intro n hbelow hn
    have hwalk : ∀ m ∈ walkAll n.children, ∀ k ∈ m.walk, k ∈ n.walk := fun m hm k hk =>
      walk_trans hk (walkAll_children_subset n.mem_walk_self m hm)
    refine step n (hn n n.mem_walk_self) fun m hm => ?_
    have hm' : ∀ k ∈ m.walk, P k := fun k hk => hn k (hwalk m hm k hk)
    exact ⟨hm' m m.mem_walk_self, hbelow m hm hm'⟩
  intro m hm
  exact forall_mem_walk hstep n m hm fun k hk => h k (walk_trans hk hm)

/-! ### Texts -/

theorem joinTexts_walkAll (ns : List Node) :
    joinTexts (walkAll ns) = String.join (ns.map textContent) := by
  induction ns with
  | nil => rfl
  | cons n ns ih =>
      rw [walkAll, joinTexts, List.map_append, String.join_append, List.map_cons, String.join_cons,
        ← ih]
      rfl

/-- The text of a node is its own one, and behind it those of its children. -/
theorem textContent_eq (n : Node) :
    n.textContent = n.ownText ++ String.join (n.children.map textContent) := by
  cases n with
  | mk t f cs =>
      rw [textContent, walk, joinTexts, List.map_cons, String.join_cons, ← joinTexts_walkAll]
      rfl

/-! ### Lists as JSON -/

theorem listToJson_eq_map (ns : List Node) : listToJson ns = ns.map toJson := by
  induction ns with
  | nil => rw [listToJson, List.map_nil]
  | cons n ns ih => rw [listToJson, List.map_cons, ih]

end Node

/-! ## Kinds -/

theorem Node.is_iff {n : Node} {k : Kind} : n.is k = true ↔ n.kind? = some k := by
  constructor
  · intro h
    have htype : n.type = k.name := by simpa [is] using h
    rw [kind?, htype, Kind.ofName?_name]
  · intro h
    have hname : k.name = n.type := by
      rw [kind?, Kind.ofName?] at h
      simpa using List.find?_some h
    simp [is, hname]

/-! ## Conforming nodes -/

/-- The line and the column of a point count from one. -/
def Point.Conforms (x : Point) : Prop := 1 ≤ x.line ∧ 1 ≤ x.column

/-- Both ends of a position conform. -/
def Position.Conforms (x : Position) : Prop := x.start.Conforms ∧ x.stop.Conforms

/-- What can be asked of a node itself. -/
structure Node.Conforms (n : Node) : Prop where
  kind : n.kind?.isSome = true
  depth : ∀ d ∈ n.fields.depth, 1 ≤ d.toNat ∧ d.toNat ≤ 6
  position : ∀ x ∈ n.fields.position, x.Conforms

/-- No extra field has the name of a standard one. -/
def Node.FieldsApart (n : Node) : Prop := ∀ e ∈ n.fields.extra.entries, e.1 ∉ Fields.reserved

instance : DecidablePred Node.FieldsApart := fun n =>
  inferInstanceAs (Decidable (∀ e ∈ n.fields.extra.entries, e.1 ∉ Fields.reserved))

/-- Standard fields that conform. -/
structure Fields.Sound (f : Fields) : Prop where
  depth : ∀ d ∈ f.depth, 1 ≤ d.toNat ∧ d.toNat ≤ 6
  position : ∀ x ∈ f.position, x.Conforms
  extra : f.extra = .empty

theorem Fields.sound_none : Fields.none.Sound :=
  ⟨by simp [Fields.none], by simp [Fields.none], rfl⟩

/-- Trees of nodes of standard types with standard fields that conform. -/
inductive Node.Sound : Node → Prop where
  | mk {k : Kind} {f : Fields} {cs : List Node} :
      f.Sound → (∀ c ∈ cs, Sound c) → Sound (.mk k.name f cs)

namespace Node.Sound

variable {n : Node}

theorem fields (h : n.Sound) : n.fields.Sound := by
  cases h
  assumption

theorem children (h : n.Sound) : ∀ c ∈ n.children, c.Sound := by
  cases h
  assumption

theorem conforms (h : n.Sound) : n.Conforms := by
  refine ⟨?_, h.fields.depth, h.fields.position⟩
  cases h with
  | @mk k => simp [kind?, type, Kind.ofName?_name]

theorem apart (h : n.Sound) : n.FieldsApart := by
  intro e he
  rw [h.fields.extra] at he
  cases he

/-- All nodes of a sound tree are of standard types. -/
theorem kinds (h : n.Sound) : ∀ m ∈ n.walk, m.kind?.isSome = true := by
  induction h with
  | @mk k f cs _ _ ih =>
      intro m hm
      rw [walk] at hm
      rcases List.mem_cons.1 hm with rfl | hm
      · simp [kind?, type, Kind.ofName?_name]
      · obtain ⟨c, hc, hm⟩ := mem_walkAll.1 hm
        exact ih c hc m hm

/-- Changing fields keeps a tree sound if they stay sound. -/
theorem mapFields (h : n.Sound) {g : Fields → Fields} (hg : (g n.fields).Sound) :
    (n.mapFields g).Sound := by
  cases h with
  | mk _ hcs => exact .mk hg hcs

end Node.Sound

end Mdast

end PagePress
