import PagePress.Proofs.Pipeline.Schemas

/-!
# Verdicts — what the schemas of this library say of a state and a context

A validator answers with the first of three things: the state is not valid, the context is not
valid, or nothing is wrong.  `StateConforms` and `ContextValid` say when.

* `Validator.Bundled`: a validator of the schemas of this library, used before or not;
* `Validator.Bundled.validate`: it stays one, and its answers are those of one registry;
* `bundled_verdict`: which answer a state and a context get.

The schemas look at the first node of a document and at the nodes of its sections only, so only
there an extra field must not stand for a standard one.
-/

namespace PagePress

namespace Pipeline

/-! ## The registry -/

section

variable {s : State} (hapart : ContentApart s.content)

include hapart

theorem check_invalidState (hs : ¬ StateConforms s) (c : Context) (step : Nat) :
    ∃ vs, vs ≠ [] ∧ Registry.bundled.check s c step = .error (.invalidState step vs) := by
  have hstate : ¬ Schema.Accepts [] Schemas.state s.toJson := mt (accepts_state_iff hapart).1 hs
  rcases check_bundled_cases s c step with ⟨haccepts, -⟩ | ⟨-, herror⟩ | ⟨haccepts, -⟩
  · exact absurd haccepts hstate
  · exact herror
  · exact absurd haccepts hstate

theorem check_invalidContext (hs : StateConforms s) {c : Context} (hc : ¬ ContextValid c)
    (step : Nat) :
    ∃ vs, vs ≠ [] ∧ Registry.bundled.check s c step = .error (.invalidContext step vs) := by
  have hstate : Schema.Accepts [] Schemas.state s.toJson := (accepts_state_iff hapart).2 hs
  have hcontext : ¬ Schema.Accepts [] Schemas.context c.toJson := mt accepts_context_iff.1 hc
  rcases check_bundled_cases s c step with ⟨-, haccepts, -⟩ | ⟨hrefused, -⟩ | ⟨-, -, herror⟩
  · exact absurd haccepts hcontext
  · exact absurd hstate hrefused
  · exact herror

end

/-! ## Validators -/

/-- A validator of the schemas of this library, whether it holds its registry already or not. -/
structure Validator.Bundled (v : Validator) : Prop where
  source : v.source = .bundled
  registry : ∀ r ∈ v.registry, r = .bundled

theorem Validator.bundled_new : (Validator.new .bundled).Bundled :=
  ⟨rfl, by simp [Validator.new]⟩

/-- Every answer is that of the one registry, which the validator holds from then on. -/
theorem Validator.Bundled.validate_eq {v : Validator} (hv : v.Bundled) (files : Files) (s : State)
    (c : Context) (step : Nat) :
    ∃ n, v.validate files s c step =
      (Registry.bundled.check s c step, ⟨.bundled, some .bundled, n⟩) := by
  obtain ⟨source, registry, n⟩ := v
  obtain rfl : source = .bundled := hv.source
  cases registry with
  | none => exact ⟨n + 1, rfl⟩
  | some r =>
      obtain rfl : r = .bundled := hv.registry r rfl
      exact ⟨n, rfl⟩

theorem Validator.Bundled.validate {v : Validator} (hv : v.Bundled) (files : Files) (s : State)
    (c : Context) (step : Nat) : (v.validate files s c step).2.Bundled := by
  obtain ⟨n, hvalidate⟩ := hv.validate_eq files s c step
  rw [hvalidate]
  exact ⟨rfl, by simp⟩

/-- A validator of the schemas of this library passes a state and a context exactly if both are
in order; an error is about the state if the state is not in order, whatever the context is, and
about the context otherwise, and it names the step. -/
theorem bundled_verdict {v : Validator} (hv : v.Bundled) {s : State}
    (hapart : ContentApart s.content) (files : Files) (c : Context) (step : Nat) :
    let verdict := (v.validate files s c step).1
    (verdict = .ok () ↔ StateConforms s ∧ ContextValid c) ∧
      (¬ StateConforms s → ∃ vs, vs ≠ [] ∧ verdict = .error (.invalidState step vs)) ∧
      (StateConforms s → ¬ ContextValid c →
        ∃ vs, vs ≠ [] ∧ verdict = .error (.invalidContext step vs)) := by
  intro verdict
  obtain ⟨n, hvalidate⟩ := hv.validate_eq files s c step
  have hverdict : verdict = Registry.bundled.check s c step := congrArg Prod.fst hvalidate
  rw [hverdict]
  refine ⟨⟨?_, ?_⟩, ?_, ?_⟩
  · -- A verdict that passes is none of the two errors.
    intro hpass
    by_cases hs : StateConforms s
    · by_cases hc : ContextValid c
      · exact ⟨hs, hc⟩
      · obtain ⟨vs, -, herror⟩ := check_invalidContext hapart hs hc step
        rw [hpass] at herror
        cases herror
    · obtain ⟨vs, -, herror⟩ := check_invalidState hapart hs c step
      rw [hpass] at herror
      cases herror
  · rintro ⟨hs, hc⟩
    exact check_bundled hapart hs hc
  · intro hs
    exact check_invalidState hapart hs c step
  · intro hs hc
    exact check_invalidContext hapart hs hc step

/-- A heading of a level that there is not, with a field of its own. -/
def deepHeading : State :=
  State.empty.mapContent fun c =>
    { c with mdast := some (.mk "heading"
        { Mdast.Fields.none with depth := some 7, extra := .ofList [("tooltip", .str "deep")] } []) }

theorem bundled_verdict_deepHeading :
    ContentApart deepHeading.content ∧ ¬ StateConforms deepHeading ∧
      ∃ vs, vs ≠ [] ∧
        ((Validator.new .bundled).validate ⟨"/", [], .directory []⟩ deepHeading
          ⟨.empty, .empty⟩ 3).1 = .error (.invalidState 3 vs) := by
  have hapart : ContentApart deepHeading.content := by
    refine ⟨?_, by simp [deepHeading, State.mapContent, State.empty, Content.empty]⟩
    rintro n ⟨⟩
    exact Dict.forall_mem_ofList (by decide)
  have hdeep : ¬ StateConforms deepHeading := by
    intro h
    have hdepth := (h.content.mdast _ rfl).depth 7 rfl
    exact absurd hdepth.2 (by decide)
  exact ⟨hapart, hdeep,
    (bundled_verdict Validator.bundled_new hapart _ ⟨.empty, .empty⟩ 3).2.1 hdeep⟩

end Pipeline

end PagePress
