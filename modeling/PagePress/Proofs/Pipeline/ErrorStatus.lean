import PagePress.Proofs.Pipeline.Machine

/-!
# Error status — a failed run does not look like a successful one

A stage may leave any status, and it may set, replace or clear the error of the state; a check
may fail behind the last stage.  Whatever happens, the end of a run is looked at once.

* `Lawful.failed_iff`: an execution leaves an error exactly if something failed in it;
* `error_finalState_ne_none`: an error lasts until an execution clears it;
* `run_reports`: a run ends without an error and as its last execution left it, or with an
  error and the status of an error.
-/

namespace PagePress

namespace Pipeline

variable {check : Check} {ctx : Context}

/-! ## Errors along a chain of executions -/

/-- The stage failed or left an error, or the check behind it did not pass. -/
def Execution.Failed (check : Check) (ctx : Context) (x : Execution) : Prop :=
  x.outcome.failure ≠ none ∨ x.outcome.state.error ≠ none ∨
    ∃ e, check x.shown ctx x.number = .error e

/-- The execution received an error and left none. -/
def Execution.Clears (x : Execution) : Prop :=
  x.received.error ≠ none ∧ x.result.error = none

theorem Lawful.failed_iff {x : Execution} (h : Lawful check ctx x) :
    x.Failed check ctx ↔ x.result.error ≠ none := by
  have hlatest := h.latest
  unfold Execution.Failed
  cases hcheck : check x.shown ctx x.number with
  | error e =>
      -- The message of the check is the error, whatever the stage did.
      have herror : x.result.error = some e.message := by simpa [hcheck, latestError] using hlatest
      simp [herror]
  | ok u =>
      cases hfailure : x.outcome.failure with
      | some e =>
          have herror : x.result.error = some e.message := by
            simpa [hcheck, hfailure, latestError] using hlatest
          simp [herror]
      | none =>
          have herror : x.result.error = x.outcome.state.error := by
            simpa [hcheck, hfailure, latestError] using hlatest
          simp [herror]

theorem error_finalState_ne_none {xs : List Execution} :
    ∀ {s : State}, Linked s xs → s.error ≠ none → (∀ x ∈ xs, ¬ x.Clears) →
      (finalState s xs).error ≠ none := by
  -- What an execution received is what the one before it left, so the start stays general.
  induction xs with
  | nil =>
      intro s _ herror _
      exact herror
  | cons x xs ih =>
      intro s hlinked herror hkept
      rcases hlinked with ⟨hreceived, hlinked⟩
      have hresult : x.result.error ≠ none := by
        intro hcleared
        refine hkept x (List.mem_cons_self ..) ⟨?_, hcleared⟩
        rw [hreceived]
        exact herror
      have htail := ih hlinked hresult fun y hy => hkept y (List.mem_cons_of_mem _ hy)
      rw [finalState_cons]
      exact htail

/-- What leaves an error in the front is the end of it. -/
theorem Performance.finalState_early {front back : List Stage} {early late : List Execution}
    (h : Performance check ctx front back early late) {x : Execution} (hx : x ∈ early)
    (herror : x.result.error ≠ none) : finalState .empty early = x.result := by
  -- Only the last execution of the front may leave an error: it freezes those behind it.
  have hne : early ≠ [] := List.ne_nil_of_mem hx
  have hsplit : early.dropLast ++ [early.getLast hne] = early := List.dropLast_concat_getLast hne
  have hlast : x = early.getLast hne := by
    rw [← hsplit, List.mem_append, List.mem_singleton] at hx
    rcases hx with hbefore | hlast
    · exact absurd (h.unfailed x hbefore) herror
    · exact hlast
  rw [finalState, List.getLast?_eq_some_getLast hne, hlast]
  rfl

/-- An error of the front is an error of the run, unless something behind the front clears it. -/
theorem Performance.error_ne_none {front back : List Stage} {early late : List Execution}
    (h : Performance check ctx front back early late) {x : Execution} (hx : x ∈ early)
    (hfailed : x.Failed check ctx) (hkept : ∀ y ∈ late, ¬ y.Clears) :
    (finalState .empty (early ++ late)).error ≠ none := by
  have hresult : x.result.error ≠ none :=
    (h.lawful x (List.mem_append_left _ hx)).failed_iff.1 hfailed
  have hend : finalState .empty early = x.result := h.finalState_early hx hresult
  have hlate : Linked x.result late := hend ▸ (linked_append.1 h.linked).2
  rw [finalState_append, hend]
  exact error_finalState_ne_none hlate hresult hkept

/-! ## The end of a run -/

theorem Response.isError_iff {r : Response} :
    r.isError = true ↔ ∃ n, r.status = some n ∧ 400 ≤ n := by
  simp [Response.isError, Option.any_eq_true_iff_get]
  cases r.status <;> simp

/-- The error of a failed state stays, and only a status that is missing or that of a success is
replaced, together with the body and the type of the body. -/
theorem ensureErrorStatus_of_error {s : State} {e : String} (herror : s.error = some e) :
    (ensureErrorStatus s).error = some e ∧
      (∃ n, (ensureErrorStatus s).response.status = some n ∧ 400 ≤ n) ∧
      (ensureErrorStatus s = s ∨
        (∀ n, s.response.status = some n → n < 400) ∧
          ensureErrorStatus s = { s with response :=
            { status := some 500
              body := some (.str e)
              headers := s.response.headers.insert "Content-Type" "text/plain" } }) := by
  by_cases htold : s.response.isError = true
  · have hsame : ensureErrorStatus s = s := by simp [ensureErrorStatus, herror, htold]
    rw [hsame]
    exact ⟨herror, Response.isError_iff.1 htold, .inl rfl⟩
  · have hlow : ∀ n, s.response.status = some n → n < 400 := by
      intro n hn
      exact UInt16.not_le.1 fun hle => htold (Response.isError_iff.2 ⟨n, hn, hle⟩)
    have hmarked : ensureErrorStatus s = { s with response :=
        { status := some 500
          body := some (.str e)
          headers := s.response.headers.insert "Content-Type" "text/plain" } } := by
      simp [ensureErrorStatus, herror, htold, errorStatus]
    rw [hmarked]
    exact ⟨herror, ⟨500, rfl, by decide⟩, .inr ⟨hlow, rfl⟩⟩

/-- A run ends without an error and exactly as its last execution left it, or it ends with an
error and a status of at least 400.  Then only a status that is missing or below 400 is replaced,
by 500 with the text of the error as a plain body.  If something failed in the front, the stages
before the main stage and the main stage, the run ends with an error unless a stage behind the
front clears it. -/
theorem run_reports (p : Pipeline) (check : Check) (ctx : Context) :
    ∃ early late,
      executions (p.steps check ctx) = early ++ late ∧
      Performance check ctx (p.pre ++ p.main.toList) p.post early late ∧
      let last := finalState .empty (early ++ late)
      let r := p.run check ctx
      (r.error = none ∧ r = last ∨
        ∃ e, last.error = some e ∧ r.error = some e ∧
          (∃ n, r.response.status = some n ∧ 400 ≤ n) ∧
          (r = last ∨
            (∀ n, last.response.status = some n → n < 400) ∧
              r = { last with response :=
                { status := some 500
                  body := some (.str e)
                  headers := last.response.headers.insert "Content-Type" "text/plain" } })) ∧
      ∀ x ∈ early, x.Failed check ctx → (∀ y ∈ late, ¬ y.Clears) → r.error ≠ none := by
  obtain ⟨early, late, hexec, hperf, hfinal⟩ := exists_performance p check ctx
  refine ⟨early, late, hexec, hperf, ?_⟩
  intro last r
  have hr : r = ensureErrorStatus last := congrArg ensureErrorStatus hfinal
  have hfailed : ∀ x ∈ early, x.Failed check ctx → (∀ y ∈ late, ¬ y.Clears) → last.error ≠ none :=
    fun x hx hfail hkept => hperf.error_ne_none hx hfail hkept
  rcases Option.eq_none_or_eq_some last.error with herror | ⟨e, herror⟩
  · -- Without an error the end of the run changes nothing.
    have hsame : r = last := by
      rw [hr]
      simp [ensureErrorStatus, herror]
    refine ⟨.inl ⟨hsame ▸ herror, hsame⟩, ?_⟩
    intro x hx hfail hkept
    exact absurd herror (hfailed x hx hfail hkept)
  · rw [hr]
    have hreport := ensureErrorStatus_of_error herror
    refine ⟨.inr ⟨e, herror, hreport⟩, ?_⟩
    intro _ _ _ _ hnone
    rw [hreport.1] at hnone
    cases hnone

end Pipeline

end PagePress
