import PagePress.Proofs.Text.Encoding

/-!
# Checked — operations that can fail

Reading a list at an index, subtracting and cutting a text at offsets have no result everywhere, and
a loop may have no end.  Here each of them says so instead of giving something.

* `Fault` is what can go wrong;
* `sub`, `item` and `slice` are the operations, with the condition under which each has a result;
* `partitionPoint` bisects a list, and `partitionPoint_append` says where it ends;
* `loop` runs rounds up to a bound; `loop_eq`: if something grows less from round to round, the
  bound is not reached.
-/

namespace PagePress

namespace Checked

/-- Why an operation has no result. -/
inductive Fault where
  /-- A number is taken from a smaller one. -/
  | sub (a b : Nat)
  /-- A list is read behind its end. -/
  | index (i : Nat)
  /-- A text is cut at offsets that are out of order, behind its end or inside a character. -/
  | slice (start stop : Nat)
  /-- A loop goes on after its last round. -/
  | endless
deriving DecidableEq, Repr

variable {α β σ ρ : Type}

@[simp]
theorem ok_bind (a : α) (f : α → Except Fault β) : (Except.ok a >>= f) = f a := rfl

/-! ## Single operations -/

/-- The difference of two numbers. -/
def sub (a b : Nat) : Except Fault Nat := if b ≤ a then .ok (a - b) else .error (.sub a b)

/-- The member of a list at an index. -/
def item (xs : List α) (i : Nat) : Except Fault α :=
  match xs[i]? with
  | some x => .ok x
  | none => .error (.index i)

/-- The part of a text between two offsets. -/
def slice (cs : List Char) (start stop : Nat) : Except Fault (List Char) :=
  match Text.between? cs start stop with
  | some part => .ok part
  | none => .error (.slice start stop)

theorem sub_of_le {a b : Nat} (h : b ≤ a) : sub a b = .ok (a - b) := if_pos h

theorem item_of_getElem? {xs : List α} {i : Nat} {x : α} (h : xs[i]? = some x) :
    item xs i = .ok x := by
  rw [item, h]

/-- A slice lies within the text, its bounds are in order, and each of them is a place between two
characters. -/
theorem slice_eq_ok_iff {cs part : List Char} {start stop : Nat} :
    slice cs start stop = .ok part ↔
      ∃ xs ys, cs = xs ++ part ++ ys ∧ (Text.encode xs).length = start ∧
        (Text.encode (xs ++ part)).length = stop := by
  rw [← Text.between?_eq_some_iff, slice]
  cases Text.between? cs start stop <;> simp

theorem slice_append (xs part ys : List Char) :
    slice (xs ++ part ++ ys) (Text.encode xs).length (Text.encode (xs ++ part)).length =
      .ok part :=
  slice_eq_ok_iff.2 ⟨xs, ys, rfl, rfl, rfl⟩

/-- The rest of a text. -/
theorem slice_rest (xs ys : List Char) :
    slice (xs ++ ys) (Text.encode xs).length (Text.encode (xs ++ ys)).length = .ok ys :=
  slice_eq_ok_iff.2 ⟨xs, [], (List.append_nil _).symm, rfl, rfl⟩

/-! ## Bisection -/

/-- Halves the stretch of a list, given by its start and its length, in which the first member that
is not of a kind is looked for. -/
def bisect (p : α → Bool) (xs : List α) (base size : Nat) : Except Fault Nat :=
  if _h : 1 < size then do
    let x ← item xs (base + size / 2)
    bisect p xs (if p x then base + size / 2 else base) (size - size / 2)
  else do
    let x ← item xs base
    pure (if p x then base + 1 else base)
termination_by size

/-- The number of members in front of the first one that is not of a kind, where none of the kind
comes behind it. -/
def partitionPoint (p : α → Bool) (xs : List α) : Except Fault Nat :=
  if xs.isEmpty then pure 0 else bisect p xs 0 xs.length

/-- Where the members of the kind are those in front of a place in the stretch, this place is
found. -/
theorem bisect_eq {p : α → Bool} {xs : List α} {k : Nat}
    (hp : ∀ i x, xs[i]? = some x → (p x = true ↔ i < k)) :
    ∀ {base size : Nat}, 0 < size → base + size ≤ xs.length → base ≤ k → k ≤ base + size →
      bisect p xs base size = .ok k := by
  intro base size
  induction size using Nat.strongRecOn generalizing base with
  | ind size ih =>
      intro hpos hlength hbase hk
      rw [bisect]
      split
      · -- The member in the middle says in which half the place is.
        rename_i hsize
        have hget : xs[base + size / 2]? = some xs[base + size / 2] :=
          List.getElem?_eq_getElem (by omega)
        rw [item_of_getElem? hget, ok_bind]
        split
        · rename_i hx
          have hlt := (hp _ _ hget).1 hx
          exact ih _ (by omega) (by omega) (by omega) (by omega) (by omega)
        · rename_i hx
          have hle := mt (hp _ _ hget).2 hx
          exact ih _ (by omega) (by omega) (by omega) (by omega) (by omega)
      · -- One member is left, and it decides.
        have hget : xs[base]? = some xs[base] := List.getElem?_eq_getElem (by omega)
        rw [item_of_getElem? hget, ok_bind]
        refine congrArg Except.ok ?_
        split
        · rename_i hx
          have hlt := (hp _ _ hget).1 hx
          omega
        · rename_i hx
          have hle := mt (hp _ _ hget).2 hx
          omega

theorem partitionPoint_append {p : α → Bool} {xs ys : List α} (hxs : ∀ x ∈ xs, p x = true)
    (hys : ∀ y ∈ ys, p y = false) : partitionPoint p (xs ++ ys) = .ok xs.length := by
  rw [partitionPoint]
  split
  · rename_i hempty
    obtain ⟨rfl, rfl⟩ : xs = [] ∧ ys = [] := by simpa using hempty
    rfl
  · rename_i hne
    have hpos : 0 < (xs ++ ys).length := List.length_pos_iff.2 (by simpa using hne)
    refine bisect_eq (fun i x hx => ?_) hpos (by omega) (Nat.zero_le _) (by simp)
    by_cases hi : i < xs.length
    · rw [List.getElem?_append_left hi] at hx
      exact iff_of_true (hxs x (List.mem_of_getElem? hx)) hi
    · rw [List.getElem?_append_right (by omega)] at hx
      have hy := hys x (List.mem_of_getElem? hx)
      simp [hy, hi]

/-! ## Loops -/

/-- Runs the rounds of a loop, each of which gives the next state or the result. -/
def loop (round : σ → Except Fault (σ ⊕ ρ)) : Nat → σ → Except Fault ρ
  | 0, _ => .error .endless
  | n + 1, s => do
    match ← round s with
    | .inl next => loop round n next
    | .inr result => pure result

/-- A loop whose rounds keep an invariant, and leave less to do each time they do not give the
result, ends with the result. -/
theorem loop_eq {round : σ → Except Fault (σ ⊕ ρ)} (Inv : σ → Prop) (left : σ → Nat) {r : ρ}
    (h : ∀ s, Inv s → round s = .ok (.inr r) ∨
      ∃ next, round s = .ok (.inl next) ∧ Inv next ∧ left next < left s) :
    ∀ {n : Nat} {s : σ}, Inv s → left s < n → loop round n s = .ok r := by
  intro n
  induction n with
  | zero => exact fun _ hlt => absurd hlt (Nat.not_lt_zero _)
  | succ n ih =>
      intro s hs hlt
      rw [loop]
      rcases h s hs with hround | ⟨next, hround, hnext, hless⟩
      · rw [hround, ok_bind]
        rfl
      · rw [hround, ok_bind]
        exact ih hnext (by omega)

end Checked

end PagePress
