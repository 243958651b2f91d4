import PagePress.Proofs.Pipeline.ErrorStatus
import PagePress.Proofs.Pipeline.Schemas

/-!
# Status — which statuses a run with the schemas of this library can end in

Any stage may leave any status.  The schema for states admits those from 100 to 599, and the end of
a run replaces those that are missing or below 400 if there is an error.  The two do not meet: a
status of 600 or more is an error for the one and the status of an error for the other.

* `Response.Admitted`: the schema for responses admits the status;
* `Response.Exceeds`: the status is above all of those;
* `Lawful.admitted`, `Lawful.exceeds`: what becomes of the status that an execution left;
* `run_status`: a run ends in an admitted status unless its last stage left one that exceeds them.
-/

namespace PagePress

namespace Pipeline

/-! ## Statuses -/

/-- The status, if there is one, is one that the schema for responses admits. -/
def Response.Admitted (r : Response) : Prop := ∀ n ∈ r.status, 100 ≤ n.toNat ∧ n.toNat ≤ 599

/-- The status is greater than all that the schema for responses admits. -/
def Response.Exceeds (r : Response) : Prop := ∃ n, r.status = some n ∧ 600 ≤ n.toNat

theorem Response.Exceeds.not_admitted {r : Response} (h : r.Exceeds) : ¬ r.Admitted := by
  obtain ⟨n, hn, hlow⟩ := h
  intro hadmitted
  have hhigh := (hadmitted n hn).2
  omega

theorem Response.Exceeds.isError {r : Response} (h : r.Exceeds) : r.isError = true := by
  obtain ⟨n, hn, hlow⟩ := h
  refine Response.isError_iff.2 ⟨n, hn, ?_⟩
  rw [UInt16.le_iff_toNat_le]
  have : (400 : UInt16).toNat = 400 := rfl
  omega

/-- The status of an error is admitted unless it exceeds all that are. -/
theorem Response.admitted_of_isError {r : Response} (h : r.isError = true) (hle : ¬ r.Exceeds) :
    r.Admitted := by
  obtain ⟨m, hm, hlow⟩ := Response.isError_iff.1 h
  intro n hn
  obtain rfl : m = n := Option.some.inj (hm.symm.trans hn)
  have hlow' : 400 ≤ m.toNat := UInt16.le_iff_toNat_le.1 hlow
  have hhigh : ¬ 600 ≤ m.toNat := fun hge => hle ⟨m, hm, hge⟩
  omega

/-! ## Checks -/

variable {ctx : Context} {s : State} {n : Nat}

theorem admitted_of_check (h : Registry.bundled.check s ctx n = .ok ()) : s.response.Admitted := by
  rcases check_bundled_cases s ctx n with ⟨hstate, -⟩ | ⟨-, vs, -, herror⟩ | ⟨-, -, vs, -, herror⟩
  · exact (accepts_state_parts.1 hstate).2
  · rw [h] at herror
    cases herror
  · rw [h] at herror
    cases herror

theorem check_of_exceeds (h : s.response.Exceeds) :
    ∃ vs, Registry.bundled.check s ctx n = .error (.invalidState n vs) := by
  have hrefused : ¬ Schema.Accepts [] Schemas.state s.toJson :=
    fun haccepts => h.not_admitted (accepts_state_parts.1 haccepts).2
  rcases check_bundled_cases s ctx n with ⟨hstate, -⟩ | ⟨-, vs, -, herror⟩ | ⟨hstate, -⟩
  · exact absurd hstate hrefused
  · exact ⟨vs, herror⟩
  · exact absurd hstate hrefused

/-! ## Executions -/

section

variable {check : Check} {x : Execution}

/-- Neither a failure nor a check changes the response. -/
theorem Lawful.response (h : Lawful check ctx x) :
    x.result.response = x.outcome.state.response := by
  rw [h.kept]

theorem Lawful.check_of_error_none (h : Lawful check ctx x) (hnone : x.result.error = none) :
    check x.shown ctx x.number = .ok () := by
  cases hcheck : check x.shown ctx x.number with
  | ok u => rfl
  | error e =>
      have hlatest := h.latest
      rw [hcheck, hnone] at hlatest
      cases hlatest

end

section

variable {x : Execution} (h : Lawful Registry.bundled.check ctx x)

include h

/-- The end of a run behind an execution that left no status beyond the admitted ones. -/
theorem Lawful.admitted (hle : ¬ x.outcome.state.response.Exceeds) :
    (ensureErrorStatus x.result).response.Admitted := by
  cases herror : x.result.error with
  | none =>
      have hsame : ensureErrorStatus x.result = x.result := by simp [ensureErrorStatus, herror]
      have hshown : x.shown.response = x.result.response := h.response.symm
      rw [hsame, ← hshown]
      exact admitted_of_check (h.check_of_error_none herror)
  | some e =>
      -- Whatever failed, the end of the run leaves the status that was there, or 500.
      obtain ⟨-, ⟨m, hm, hlow⟩, hkept | ⟨-, hmarked⟩⟩ := ensureErrorStatus_of_error herror
      · rw [hkept] at hm ⊢
        rw [h.response] at hm ⊢
        exact Response.admitted_of_isError (Response.isError_iff.2 ⟨m, hm, hlow⟩) hle
      · rw [hmarked]
        intro n hn
        obtain rfl : (500 : UInt16) = n := Option.some.inj hn
        decide

/-- The check behind an execution that left a status beyond the admitted ones fails, and the end
of the run keeps the status, since it is that of an error. -/
theorem Lawful.exceeds (hgt : x.outcome.state.response.Exceeds) :
    ensureErrorStatus x.result = x.result ∧
      ∃ vs, Registry.bundled.check x.shown ctx x.number = .error (.invalidState x.number vs) ∧
        x.result.error = some (ValidationError.invalidState x.number vs).message := by
  have hshown : x.shown.response.Exceeds := hgt
  obtain ⟨vs, hcheck⟩ := @check_of_exceeds ctx x.shown x.number hshown
  have herror : x.result.error = some (ValidationError.invalidState x.number vs).message := by
    rw [h.latest, hcheck]
    rfl
  have hisError : x.result.response.isError = true := by
    rw [h.response]
    exact hgt.isError
  refine ⟨?_, vs, hcheck, herror⟩
  simp [ensureErrorStatus, herror, hisError]

end

/-! ## Runs -/

/-- A run ends without a status or in an admitted one exactly if the last stage that was executed
left no status beyond these.  If it did, the run ends as that stage left it, with the message of
the check behind it as its error. -/
theorem run_status (p : Pipeline) (files : Files) (ctx : Context) :
    let check := SchemaSource.bundled.check files
    let last := (executions (p.steps check ctx)).getLast?
    let r := p.run check ctx
    (r.response.Admitted ↔ ∀ x ∈ last, ¬ x.outcome.state.response.Exceeds) ∧
      ∀ x ∈ last, x.outcome.state.response.Exceeds →
        r.response = x.outcome.state.response ∧
          ∃ vs, check x.shown ctx x.number = .error (.invalidState x.number vs) ∧
            r.error = some (ValidationError.invalidState x.number vs).message := by
  intro check last r
  have hcheck : check = Registry.bundled.check := check_bundled_eq files
  obtain ⟨early, late, hexec, hperf, hfinal⟩ := exists_performance p check ctx
  have hr : r = ensureErrorStatus (finalState .empty (early ++ late)) :=
    congrArg ensureErrorStatus hfinal
  have hlast : last = (early ++ late).getLast? := congrArg List.getLast? hexec
  rw [hr, hlast, finalState]
  cases hend : (early ++ late).getLast? with
  | none =>
      -- Without a stage the run ends as it began.
      simp [ensureErrorStatus, State.empty, Response.empty, Response.Admitted]
  | some x =>
      have hlawful : Lawful Registry.bundled.check ctx x :=
        hcheck ▸ hperf.lawful x (List.mem_of_getLast? hend)
      simp only [Option.map_some, Option.getD_some, Option.mem_some_iff, forall_eq', hcheck]
      refine ⟨⟨?_, hlawful.admitted⟩, ?_⟩
      · intro hadmitted hgt
        rw [(hlawful.exceeds hgt).1, hlawful.response] at hadmitted
        exact hgt.not_admitted hadmitted
      · intro hgt
        obtain ⟨hkept, hfailed⟩ := hlawful.exceeds hgt
        rw [hkept]
        exact ⟨hlawful.response, hfailed⟩

/-- A main stage that leaves a status that is none. -/
def overshootingStage : Stage :=
  .pure "main" fun _ s => s.mapResponse fun r => { r with status := some 600 }

/-- Whatever the check says, the status stays. -/
theorem overshootingStage_stays (check : Check) (ctx : Context) :
    (run ⟨[], some overshootingStage, []⟩ check ctx).response.status = some 600 := by
  have hlast : lastResult .empty (steps ⟨[], some overshootingStage, []⟩ check ctx) =
      (checked check ctx 0 (overshootingStage.run ctx .empty).noted).1 := rfl
  rw [run, hlast, checked]
  cases check (overshootingStage.run ctx .empty).noted ctx 0 with
  | ok u => rfl
  | error e => rfl

/-- A run can end in a status that the schemas do not admit. -/
theorem overshootingStage_not_admitted :
    ¬ ∀ (p : Pipeline) (files : Files) (ctx : Context),
      (p.run (SchemaSource.bundled.check files) ctx).response.Admitted := by
  intro h
  have hadmitted := h ⟨[], some overshootingStage, []⟩ ⟨"/", [], .directory []⟩ ⟨.empty, .empty⟩
  have hexceeds : (run ⟨[], some overshootingStage, []⟩
      (SchemaSource.bundled.check ⟨"/", [], .directory []⟩) ⟨.empty, .empty⟩).response.Exceeds :=
    ⟨600, overshootingStage_stays _ _, by decide⟩
  exact hexceeds.not_admitted hadmitted

end Pipeline

end PagePress
