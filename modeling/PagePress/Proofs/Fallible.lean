/-!
# Fallible — results that may be errors

What the parts of a computation gave, read off what the whole of it gave.
-/

namespace PagePress

namespace Fallible

variable {α β ε : Type}

theorem bind_eq_error {x : Except ε α} {f : α → Except ε β} {e : ε} :
    x >>= f = .error e ↔ x = .error e ∨ ∃ a, x = .ok a ∧ f a = .error e := by
  cases x with
  | error e => simp [bind, Except.bind]
  | ok a => simp [bind, Except.bind]

theorem bind_eq_ok {x : Except ε α} {f : α → Except ε β} {b : β} :
    x >>= f = .ok b ↔ ∃ a, x = .ok a ∧ f a = .ok b := by
  cases x with
  | error e => simp [bind, Except.bind]
  | ok a => simp [bind, Except.bind]

theorem eq_ok_of_toOption {x : Except ε α} {a : α} (h : x.toOption = some a) : x = .ok a := by
  cases x with
  | error e => cases h
  | ok b => exact congrArg Except.ok (Option.some.inj h)

/-- The error of a list of computations is the error of one of them. -/
theorem exists_of_mapM_eq_error {f : α → Except ε β} {e : ε} :
    ∀ {xs : List α}, xs.mapM f = .error e → ∃ x ∈ xs, f x = .error e := by
  intro xs
  induction xs with
  | nil =>
      intro h
      cases h
  | cons x xs ih =>
      intro h
      rw [List.mapM_cons] at h
      rcases bind_eq_error.1 h with hx | ⟨y, _, h⟩
      · exact ⟨x, List.mem_cons_self .., hx⟩
      · rcases bind_eq_error.1 h with hxs | ⟨ys, _, h⟩
        · obtain ⟨z, hz, hfz⟩ := ih hxs
          exact ⟨z, List.mem_cons_of_mem _ hz, hfz⟩
        · cases h

/-- The error of a fold is the error of one of its steps. -/
theorem exists_of_foldlM_eq_error {f : β → α → Except ε β} {e : ε} :
    ∀ {xs : List α} {b : β}, xs.foldlM f b = .error e → ∃ c, ∃ x ∈ xs, f c x = .error e := by
  intro xs
  induction xs with
  | nil =>
      intro b h
      cases h
  | cons x xs ih =>
      intro b h
      rw [List.foldlM_cons] at h
      rcases bind_eq_error.1 h with hx | ⟨c, _, h⟩
      · exact ⟨b, x, List.mem_cons_self .., hx⟩
      · obtain ⟨d, y, hy, hfy⟩ := ih h
        exact ⟨d, y, List.mem_cons_of_mem _ hy, hfy⟩

end Fallible

end PagePress
