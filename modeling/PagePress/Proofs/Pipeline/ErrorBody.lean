import PagePress.Proofs.Pipeline.ErrorStatus
import PagePress.Proofs.Pipeline.Page

/-!
# Error body — what the response for a page tells of an error

The last stage for a page puts the error into the body.  It is checked like any other stage, and
an error of this last check is too late for the body.

* `accepted_toError`: completing a response does not make a state invalid, so the last check fails
  only if the one before it failed;
* `page_closes`: whatever happened before, a run for a page ends with two stages that are executed;
* `page_error_body`: the body tells of the error of the run exactly if what the run returned is
  valid, and of the failure one step earlier otherwise.
-/

namespace PagePress

namespace Pipeline

open Fetch (Source)

/-! ## Verdicts -/

/-- The schemas of this library accept a state and a context. -/
def Accepted (s : State) (ctx : Context) : Prop :=
  Schema.Accepts [] Schemas.state s.toJson ∧ Schema.Accepts [] Schemas.context ctx.toJson

section

variable {ctx : Context} {s t : State}

theorem accepted_iff :
    Accepted s ctx ↔ Schema.Accepts ["content"] Schemas.content s.content.toJson ∧
      (∀ n ∈ s.response.status, 100 ≤ n.toNat ∧ n.toNat ≤ 599) ∧
        Schema.Accepts [] Schemas.context ctx.toJson := by
  rw [Accepted, accepts_state_parts, and_assoc]

/-- Neither the error nor the body nor the headers count. -/
theorem accepted_congr (hcontent : s.content = t.content)
    (hstatus : s.response.status = t.response.status) : Accepted s ctx ↔ Accepted t ctx := by
  rw [accepted_iff, accepted_iff, hcontent, hstatus]

/-- Changing the response keeps a state valid if the new status is the old one or a good one. -/
theorem accepted_withResponse {r : Response} (h : Accepted s ctx)
    (hstatus : r.status = s.response.status ∨
      ∃ n : UInt16, r.status = some n ∧ 100 ≤ n.toNat ∧ n.toNat ≤ 599) :
    Accepted { s with response := r } ctx := by
  obtain ⟨hcontent, hold, hctx⟩ := accepted_iff.1 h
  refine accepted_iff.2 ⟨hcontent, ?_, hctx⟩
  rcases hstatus with hsame | ⟨n, hn, hrange⟩
  · exact hsame ▸ hold
  · intro m hm
    obtain rfl : n = m := Option.some.inj (hn.symm.trans hm)
    exact hrange

theorem accepted_toError (h : Accepted s ctx) (e : String) :
    Accepted { s with response := s.response.toError e } ctx := by
  refine accepted_withResponse h ?_
  cases herror : s.response.isError with
  | true => exact .inl (by simp [Response.toError, herror])
  | false => exact .inr ⟨failureStatus, by simp [Response.toError, herror], by decide⟩

theorem accepted_succeed (h : Accepted s ctx) :
    Accepted (s.mapResponse fun r => { r with status := some (r.status.getD successStatus) })
      ctx := by
  refine accepted_withResponse h ?_
  cases hstatus : s.response.status with
  | none => exact .inr ⟨successStatus, by simp [hstatus], by decide⟩
  | some n => exact .inl (by simp [hstatus])

theorem check_accepted_cases (s : State) (ctx : Context) (n : Nat) :
    (Accepted s ctx ∧ Registry.bundled.check s ctx n = .ok ()) ∨
      (¬ Accepted s ctx ∧ ∃ e, Registry.bundled.check s ctx n = .error e ∧ e.place? = some n) := by
  rcases check_bundled_cases s ctx n with
    ⟨hstate, hcontext, hpass⟩ | ⟨hstate, vs, -, herror⟩ | ⟨-, hcontext, vs, -, herror⟩
  · exact .inl ⟨⟨hstate, hcontext⟩, hpass⟩
  · exact .inr ⟨fun h => hstate h.1, _, herror, rfl⟩
  · exact .inr ⟨fun h => hcontext h.2, _, herror, rfl⟩

theorem check_bundled_iff {n : Nat} : Registry.bundled.check s ctx n = .ok () ↔ Accepted s ctx := by
  rcases check_accepted_cases s ctx n with ⟨h, hcheck⟩ | ⟨h, e, hcheck, -⟩
  · exact iff_of_true hcheck h
  · refine iff_of_false ?_ h
    rw [hcheck]
    rintro ⟨⟩

theorem exists_message_of_place {e : ValidationError} {n : Nat} (h : e.place? = some n) :
    ∃ rest, e.message = "Invalid Context at step " ++ toString n ++ "\n" ++ rest ∨
      e.message = "Invalid Action at step " ++ toString n ++ "\n" ++ rest := by
  cases e with
  | invalidState m vs =>
      obtain rfl : m = n := Option.some.inj h
      exact ⟨_, .inl rfl⟩
  | invalidContext m vs =>
      obtain rfl : m = n := Option.some.inj h
      exact ⟨_, .inr rfl⟩
  | _ => cases h

/-- The messages of checks at the last two places for a page differ. -/
theorem message_ne {v w : ValidationError} (hv : v.place? = some 7) (hw : w.place? = some 8) :
    v.message ≠ w.message := by
  -- Both begin with the place, whatever the violations are.
  have hseven : toString 7 = "7" := rfl
  have height : toString 8 = "8" := rfl
  obtain ⟨r, hr⟩ := exists_message_of_place hv
  obtain ⟨s, hs⟩ := exists_message_of_place hw
  intro h
  have hlist := congrArg String.toList h
  rw [hseven] at hr
  rw [height] at hs
  rcases hr with hr | hr <;> rcases hs with hs | hs <;> rw [hr, hs] at hlist <;>
    simp at hlist

theorem errorBody_inj {a b : String} : errorBody a = errorBody b ↔ a = b := by
  constructor
  · intro h
    cases h
    rfl
  · rintro rfl
    rfl

end

/-! ## The last two stages -/

variable {check : Check} {ctx : Context}

theorem perform_of_ok {n : Nat} {stage : Stage} {s : State}
    (h : check (perform check ctx n stage s).shown ctx n = .ok ()) :
    (perform check ctx n stage s).result = (perform check ctx n stage s).shown := by
  rw [perform_shown] at h ⊢
  simp [perform, checked, h]

theorem perform_of_error {n : Nat} {stage : Stage} {s : State} {e : ValidationError}
    (h : check (perform check ctx n stage s).shown ctx n = .error e) :
    (perform check ctx n stage s).result =
      { (perform check ctx n stage s).shown with error := some e.message } := by
  rw [perform_shown] at h ⊢
  simp [perform, checked, h]

theorem contains_defaultHeader (r : Response) (name value : String) :
    (r.defaultHeader name value).headers.contains name = true := by
  unfold Response.defaultHeader
  split
  · assumption
  · simp [Dict.contains, Dict.get?_insert]

theorem adaptResponse_of_none {s : State} (h : s.error = none) :
    (adaptResponse.run ctx s).noted =
      s.mapResponse fun r => { r with status := some (r.status.getD successStatus) } := by
  unfold adaptResponse
  simp only [h]
  rfl

theorem adaptResponse_of_some {s : State} {e : String} (h : s.error = some e) :
    (adaptResponse.run ctx s).noted = { s with response := s.response.toError e } := by
  unfold adaptResponse
  simp only [h]
  rfl

theorem adaptResponse_headers (s : State) :
    (adaptResponse.run ctx s).noted.response.headers = s.response.headers := by
  cases h : s.error with
  | none =>
      rw [adaptResponse_of_none h]
      rfl
  | some e =>
      rw [adaptResponse_of_some h]
      rfl

theorem isError_toError (r : Response) (e : String) : (r.toError e).isError = true := by
  cases h : r.isError with
  | true =>
      have hstatus : (r.toError e).status = r.status := by simp [Response.toError, h]
      rw [Response.isError, hstatus]
      exact h
  | false =>
      have hstatus : (r.toError e).status = some failureStatus := by simp [Response.toError, h]
      rw [Response.isError, hstatus]
      rfl

/-- Whatever happened before, the last two stages for a page are executed. -/
theorem page_closes (format : Format) (main : Stage) (source : Source)
    (registry : Render.Registry) (check : Check) (ctx : Context) :
    let p := page format main source registry
    ∃ early t x y,
      x = perform check ctx 7 (setContentType format.contentType) t ∧
      y = perform check ctx 8 adaptResponse x.result ∧
      executions (p.steps check ctx) = early ++ [x, y] ∧
      p.run check ctx = ensureErrorStatus y.result := by
  intro p
  obtain ⟨early, late, hexec, hperf, hfinal⟩ := exists_performance p check ctx
  -- Stages behind the main one are not skipped, so these are the executions at both places.
  have hplaces : late.map Execution.place =
      [(setContentType format.contentType, 7), (adaptResponse, 8)] := hperf.complete
  obtain ⟨x, rest, rfl, hplacex, hrest⟩ := List.map_eq_cons_iff.1 hplaces
  obtain ⟨y, none_left, rfl, hplacey, hnil⟩ := List.map_eq_cons_iff.1 hrest
  obtain rfl := List.map_eq_nil_iff.1 hnil
  obtain ⟨hstagex, hnumberx⟩ := Prod.mk.inj hplacex
  obtain ⟨hstagey, hnumbery⟩ := Prod.mk.inj hplacey
  -- A lawful execution is the one of its stage on what it received.
  have hx := lawful_iff.1 (hperf.lawful x (by simp))
  have hy := lawful_iff.1 (hperf.lawful y (by simp))
  have hlinked : y.received = x.result := (linked_append.1 hperf.linked).2.2.1
  rw [hstagex, hnumberx] at hx
  rw [hstagey, hnumbery, hlinked] at hy
  refine ⟨early, x.received, x, y, hx, hy, hexec, congrArg ensureErrorStatus (hfinal.trans ?_)⟩
  rw [finalState_append]
  rfl

/-! ## What the last two checks come to -/

theorem perform_response (check : Check) (ctx : Context) (n : Nat) (stage : Stage) (s : State) :
    (perform check ctx n stage s).result.response =
      (perform check ctx n stage s).shown.response := by
  cases h : check (perform check ctx n stage s).shown ctx n with
  | ok u => rw [perform_of_ok h]
  | error e => rw [perform_of_error h]

theorem accepted_perform {n : Nat} {stage : Stage} {s : State} :
    Accepted (perform check ctx n stage s).result ctx ↔
      Accepted (perform check ctx n stage s).shown ctx := by
  cases h : check (perform check ctx n stage s).shown ctx n with
  | ok u => rw [perform_of_ok h]
  | error e =>
      rw [perform_of_error h]
      exact accepted_congr rfl rfl

section

variable {s : State} {x y : Execution}

/-- Without an error before the last stage, its check passes what the check before it passed. -/
theorem completed_of_none {stage : Stage} (hx : x = perform Registry.bundled.check ctx 7 stage s)
    (hy : y = perform Registry.bundled.check ctx 8 adaptResponse x.result)
    (h : x.result.error = none) :
    Accepted y.result ctx ∧ y.result.error = none ∧
      ∃ n, y.result.response.status = some n := by
  have hpassed : Accepted x.shown ctx := by
    rcases check_accepted_cases x.shown ctx 7 with ⟨haccepted, -⟩ | ⟨-, v, hv, -⟩
    · exact haccepted
    · rw [hx] at hv h
      rw [perform_of_error hv] at h
      cases h
  have haccepted : Accepted x.result ctx := by
    rw [hx] at hpassed ⊢
    exact accepted_perform.2 hpassed
  have hshown : y.shown =
      x.result.mapResponse fun r => { r with status := some (r.status.getD successStatus) } := by
    rw [hy, perform_shown, adaptResponse_of_none h]
  have hlast : Accepted y.shown ctx := by
    rw [hshown]
    exact accepted_succeed haccepted
  have hresult : y.result = y.shown := by
    have hcheck := check_bundled_iff (n := 8) |>.2 hlast
    rw [hy] at hcheck ⊢
    exact perform_of_ok hcheck
  rw [hresult]
  refine ⟨hlast, ?_⟩
  rw [hshown]
  exact ⟨h, _, rfl⟩

/-- The body tells of the error before the last stage, and a failure of the last check comes after
one of the check before it. -/
theorem told_of_some {stage : Stage} {e : String}
    (hx : x = perform Registry.bundled.check ctx 7 stage s)
    (hy : y = perform Registry.bundled.check ctx 8 adaptResponse x.result)
    (h : x.result.error = some e) :
    y.result.response.isError = true ∧ y.result.response.body = some (errorBody e) ∧
      (Accepted y.result ctx ∧ y.result.error = some e ∨
        ¬ Accepted y.result ctx ∧ ∃ v w, e = v.message ∧ v.message ≠ w.message ∧
          Registry.bundled.check x.shown ctx 7 = .error v ∧
          Registry.bundled.check y.shown ctx 8 = .error w ∧
          y.result.error = some w.message) := by
  have hshown : y.shown = { x.result with response := x.result.response.toError e } := by
    rw [hy, perform_shown, adaptResponse_of_some h]
  have hresponse : y.result.response = x.result.response.toError e := by
    have hkept : y.result.response = y.shown.response := by
      rw [hy]
      exact perform_response ..
    rw [hkept, hshown]
  have haccepted : Accepted y.result ctx ↔ Accepted y.shown ctx := by
    rw [hy]
    exact accepted_perform
  rw [hresponse, haccepted]
  refine ⟨isError_toError _ e, rfl, ?_⟩
  -- The body is written from the error before the check, so they part only if the check fails.
  rcases check_accepted_cases y.shown ctx 8 with ⟨hpassed, hcheck⟩ | ⟨hfailed, w, hcheck, hw⟩
  · refine .inl ⟨hpassed, ?_⟩
    have hresult : y.result = y.shown := by
      rw [hy] at hcheck ⊢
      exact perform_of_ok hcheck
    rw [hresult, hshown]
    exact h
  · have hlast : y.result.error = some w.message := by
      rw [hy] at hcheck ⊢
      rw [perform_of_error hcheck]
    -- The last stage leaves no state invalid that was valid.
    have hbefore : ¬ Accepted x.shown ctx := by
      intro hpassed
      have hresult : Accepted x.result ctx := by
        rw [hx] at hpassed ⊢
        exact accepted_perform.2 hpassed
      rw [hshown] at hfailed
      exact hfailed (accepted_toError hresult e)
    rcases check_accepted_cases x.shown ctx 7 with ⟨hpassed, -⟩ | ⟨-, v, hv, hplace⟩
    · exact absurd hpassed hbefore
    · have herror : x.result.error = some v.message := by
        rw [hx] at hv ⊢
        rw [perform_of_error hv]
      obtain rfl : e = v.message := Option.some.inj (h.symm.trans herror)
      exact .inr ⟨hfailed, v, w, rfl, message_ne hplace hw, hv, hcheck, hlast⟩

end

/-! ## The response -/

/-- The checks behind the last two stages both failed: the error is that of the later one, and the
body tells of the earlier one. -/
def FailedTwice (format : Format) (check : Check) (ctx : Context) (ran : List Execution)
    (r : State) : Prop :=
  ∃ (early : List Execution) (x y : Execution) (v w : ValidationError), ran = early ++ [x, y] ∧
    x.place = (setContentType format.contentType, 7) ∧ y.place = (adaptResponse, 8) ∧
    check x.shown ctx 7 = .error v ∧ check y.shown ctx 8 = .error w ∧
    r.error = some w.message ∧ r.response.body = some (errorBody v.message)

/-- How a run for a page can end. -/
inductive Ending (format : Format) (check : Check) (ctx : Context) (ran : List Execution)
    (r : State) : Prop where
  | completed : Accepted r ctx → r.error = none → (∃ n, r.response.status = some n) →
      Ending format check ctx ran r
  /-- The body tells of the error. -/
  | told (e : String) : Accepted r ctx → r.error = some e → r.response.isError = true →
      r.response.body = some (errorBody e) → Ending format check ctx ran r
  /-- The error is that of the last check, and the body tells of an earlier one. -/
  | outdated (e : String) : ¬ Accepted r ctx → r.error = some e → r.response.isError = true →
      r.response.body ≠ some (errorBody e) → FailedTwice format check ctx ran r →
      Ending format check ctx ran r

theorem Ending.tells {format : Format} {check : Check} {ctx : Context} {ran : List Execution}
    {r : State} (h : Ending format check ctx ran r) :
    (∃ n, r.response.status = some n) ∧
      ∀ e, r.error = some e →
        (∃ n, r.response.status = some n ∧ 400 ≤ n) ∧
        (r.response.body = some (errorBody e) ↔ Accepted r ctx) ∧
        (Accepted r ctx ∨ FailedTwice format check ctx ran r) := by
  cases h with
  | completed _ hnone hstatus =>
      refine ⟨hstatus, ?_⟩
      intro e he
      cases he.symm.trans hnone
  | told last hpassed herror htold hbody =>
      obtain ⟨n, hn, hle⟩ := Response.isError_iff.1 htold
      refine ⟨⟨n, hn⟩, ?_⟩
      intro e he
      obtain rfl : last = e := Option.some.inj (herror.symm.trans he)
      exact ⟨⟨n, hn, hle⟩, iff_of_true hbody hpassed, .inl hpassed⟩
  | outdated last hfailed herror htold hbody htwice =>
      obtain ⟨n, hn, hle⟩ := Response.isError_iff.1 htold
      refine ⟨⟨n, hn⟩, ?_⟩
      intro e he
      obtain rfl : last = e := Option.some.inj (herror.symm.trans he)
      exact ⟨⟨n, hn, hle⟩, iff_of_false hbody hfailed, .inr htwice⟩

theorem page_ending (format : Format) (main : Stage) (source : Source)
    (registry : Render.Registry) (ctx : Context) :
    let p := page format main source registry
    let check := Registry.bundled.check
    Ending format check ctx (executions (p.steps check ctx)) (p.run check ctx) := by
  intro p check
  obtain ⟨early, t, x, y, hx, hy, hexec, hrun⟩ :=
    page_closes format main source registry check ctx
  rw [hrun]
  -- The last stage decides by the error that the stage before it left.
  cases hbefore : x.result.error with
  | none =>
      obtain ⟨hpassed, herror, hstatus⟩ := completed_of_none hx hy hbefore
      rw [ensureErrorStatus_eq (.inl herror)]
      exact .completed hpassed herror hstatus
  | some e =>
      obtain ⟨htold, hbody, hchecks⟩ := told_of_some hx hy hbefore
      rw [ensureErrorStatus_eq (.inr htold)]
      rcases hchecks with ⟨hpassed, herror⟩ | ⟨hfailed, v, w, rfl, hne, hv, hw, herror⟩
      · exact .told e hpassed herror htold hbody
      · have hother : y.result.response.body ≠ some (errorBody w.message) := by
          rw [hbody, Ne, Option.some.injEq, errorBody_inj]
          exact hne
        refine .outdated w.message hfailed herror htold hother ⟨early, x, y, v, w, hexec, ?_⟩
        have hplacex : x.place = (setContentType format.contentType, 7) := by rw [hx]; rfl
        have hplacey : y.place = (adaptResponse, 8) := by rw [hy]; rfl
        exact ⟨hplacex, hplacey, hv, hw, herror, hbody⟩

/-- Whatever failed, the type of the body is named. -/
theorem page_names_type {format : Format} {main : Stage} {source : Source}
    {registry : Render.Registry} {ctx : Context} {r : State}
    (hr : (page format main source registry).run Registry.bundled.check ctx = r) :
    r.response.headers.contains contentTypeHeader = true := by
  obtain ⟨early, t, x, y, hx, hy, hexec, hrun⟩ :=
    page_closes format main source registry Registry.bundled.check ctx
  have hnamed : y.result.response.headers.contains contentTypeHeader = true := by
    rw [hy, perform_response, perform_shown, adaptResponse_headers, hx, perform_response,
      perform_shown]
    exact contains_defaultHeader ..
  -- The end of the run looks at the status, and that is in order behind the last stage.
  have hsettled : y.result.error = none ∨ y.result.response.isError = true := by
    cases hbefore : x.result.error with
    | none => exact .inl (completed_of_none hx hy hbefore).2.1
    | some e => exact .inr (told_of_some hx hy hbefore).1
  have hlast : r = y.result := hr.symm.trans (hrun.trans (ensureErrorStatus_eq hsettled))
  rw [hlast]
  exact hnamed

/-- The response for a page has a status and the type of its body, and that of a failed run has
the status of an error.  Its body tells of the error of the run exactly if what the run returned
is valid.  If not, two checks failed one after another, and the body tells of the first one. -/
theorem page_error_body (format : Format) (main : Stage) (source : Source)
    (registry : Render.Registry) (files : Files) (ctx : Context) :
    let p := page format main source registry
    let check := SchemaSource.bundled.check files
    let r := p.run check ctx
    (∃ n, r.response.status = some n) ∧ r.response.headers.contains contentTypeHeader = true ∧
      ∀ e, r.error = some e →
        (∃ n, r.response.status = some n ∧ 400 ≤ n) ∧
        (r.response.body = some (errorBody e) ↔ check r ctx 8 = .ok ()) ∧
        (check r ctx 8 = .ok () ∨
          FailedTwice format check ctx (executions (p.steps check ctx)) r) := by
  rw [check_bundled_eq]
  intro p check r
  have hending : Ending format check ctx (executions (p.steps check ctx)) r :=
    page_ending format main source registry ctx
  have hverdict : check r ctx 8 = .ok () ↔ Accepted r ctx := check_bundled_iff
  obtain ⟨hstatus, htells⟩ := hending.tells
  have hrun : (page format main source registry).run Registry.bundled.check ctx = r := rfl
  refine ⟨hstatus, page_names_type hrun, ?_⟩
  intro e he
  rw [hverdict]
  exact htells e he

/-- For a context that is not valid, the body never tells of the error of the run. -/
theorem page_misreports (format : Format) (main : Stage) (source : Source)
    (registry : Render.Registry) {ctx : Context} (hctx : ¬ ContextValid ctx) :
    let r := (page format main source registry).run Registry.bundled.check ctx
    ∃ e, r.error = some e ∧ r.response.body ≠ some (errorBody e) := by
  intro r
  have hfailed : ¬ Accepted r ctx := fun h => hctx (accepts_context_iff.1 h.2)
  have hending : Ending format Registry.bundled.check ctx _ r :=
    page_ending format main source registry ctx
  cases hending with
  | completed hpassed => exact absurd hpassed hfailed
  | told e hpassed => exact absurd hpassed hfailed
  | outdated e _ herror _ hbody => exact ⟨e, herror, hbody⟩

/-- A request with a secret under a name in lower case. -/
def hushedRequest : Context where
  params :=
    { RawParams.empty with owner := some "adobe", repo := some "docs", path := some "/index.md" }
  secrets := ⟨none, .ofList [("lower_case", "x")]⟩

/-- A stage that changes nothing. -/
def idleStage : Stage := .pure "main" fun _ s => s

/-- The error is that of the check behind the last stage, which wrote the body before. -/
theorem hushedRequest_misreported :
    let source := Source.directory helloFiles "/srv"
    let check := SchemaSource.bundled.check helloFiles
    let r := (page .json idleStage source []).run check hushedRequest
    ∃ e, r.error = some e ∧ r.response.body ≠ some (errorBody e) := by
  rw [check_bundled_eq]
  refine page_misreports .json idleStage _ [] ?_
  intro hvalid
  have hname : IsSecretName "lower_case" :=
    hvalid.secrets ("lower_case", "x") (by decide) (by decide)
  exact absurd (hname.2 'l' (by decide)) (by decide)

end Pipeline

end PagePress
