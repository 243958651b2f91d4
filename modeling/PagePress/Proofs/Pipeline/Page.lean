import Mathlib.Logic.ExistsUnique
import PagePress.Proofs.Pipeline.Machine
import PagePress.Proofs.Pipeline.Turnout

/-!
# Pages — how the run for a page turns out

* `Course` tells which stages run one after another, and what they leave; `Course.record` are the
  steps of such a run, in which every check passes;
* `course_unfetched`, `course_unrendered` and `course_rendered` are the courses of the three ways in
  which a run can turn out;
* `page_turnout`: every run for a page turns out in exactly one of them.
-/

namespace PagePress

namespace Pipeline

open Fetch (FetchError Source)

/-! ## Courses -/

/-- How stages run one after another while every check passes: the place of the first stage, the
state before it, the stages, the places at which stages ran, and the state behind the last one. -/
inductive Course (ctx : Context) :
    Nat → State → List (Phase × Stage) → List Nat → State → Prop where
  | nil {n : Nat} {s : State} : Course ctx n s [] [] s
  | ran {n : Nat} {s t u : State} {phase : Phase} {stage : Stage} {rest : List (Phase × Stage)}
      {ran : List Nat} :
      (s.isFailed && phase.skippedAfterError) = false → (stage.run ctx s).noted = t →
      Course ctx (n + 1) t rest ran u → Course ctx n s ((phase, stage) :: rest) (n :: ran) u
  | skipped {n : Nat} {s t : State} {phase : Phase} {stage : Stage} {rest : List (Phase × Stage)}
      {ran : List Nat} :
      (s.isFailed && phase.skippedAfterError) = true →
      Course ctx (n + 1) s rest ran t → Course ctx n s ((phase, stage) :: rest) ran t

/-- Stages that keep states sound run their course, and every check passes. -/
theorem Course.record {check : Check} {ctx : Context} {n : Nat} {s t : State}
    {stages : List (Phase × Stage)} {ran : List Nat}
    (hcheck : ∀ u : State, u.Sound → ∀ m, check u ctx m = .ok ())
    (h : Course ctx n s stages ran t) (hkeeps : ∀ r ∈ stages, r.2.KeepsSound) (hs : s.Sound) :
    (∀ x ∈ executions (stepsFrom check ctx n stages s), check x.shown ctx x.number = .ok ()) ∧
      (executions (stepsFrom check ctx n stages s)).map Execution.number = ran ∧
      lastResult s (stepsFrom check ctx n stages s) = t := by
  -- Soundness is what the induction on the course carries: it makes the next check pass, so that a
  -- stage leaves what it noted and no error of a check.
  induction h with
  | nil => exact ⟨by simp [stepsFrom, executions], rfl, rfl⟩
  | @ran n s t u phase stage rest ran hruns ht _ ih =>
      obtain ⟨hkeep, hrest⟩ := List.forall_mem_cons.1 hkeeps
      have hsound : t.Sound := ht ▸ hkeep ctx s hs
      obtain ⟨hpass, hran, hlast⟩ := ih hrest hsound
      have hstep := step_runs check ctx n stage hruns
      have hresult : (perform check ctx n stage s).result = t := by
        simp [perform, checked, ht, hcheck t hsound]
      rw [stepsFrom, executions_cons, lastResult_cons, hstep.1, hstep.2, hresult]
      refine ⟨?_, ?_, hlast⟩
      · simp only [Option.toList_some, List.singleton_append, List.forall_mem_cons]
        refine ⟨?_, hpass⟩
        rw [perform_shown, ht]
        exact hcheck t hsound _
      · rw [Option.toList_some, List.singleton_append, List.map_cons, hran]
        rfl
  | @skipped n s t phase stage rest ran hskips _ ih =>
      have hstep := step_skips check ctx n stage hskips
      rw [stepsFrom, executions_cons, lastResult_cons, hstep.1, hstep.2]
      simpa using ih (List.forall_mem_cons.1 hkeeps).2 hs

/-! ## Main stages -/

/-- A main stage that sums up the content, or changes nothing, sets the body at most. -/
theorem exists_body_of_main {main : Stage} (h : main = emitJson ∨ main.IsIdle) (ctx : Context)
    (s : State) :
    ∃ body, (main.run ctx s).noted = s.mapResponse (fun r => { r with body }) ∧
      (main = emitJson → ∃ members, body = some (.obj members) ∧ Summarises members s.content) ∧
      (main.IsIdle → body = s.response.body) := by
  obtain ⟨members, hsummary, hmembers⟩ := exists_summarises s.content
  have hidle : main.IsIdle → (main.run ctx s).noted = s := by
    intro hidle
    obtain ⟨log, hrun⟩ := hidle ctx s
    rw [hrun]
    rfl
  rcases h with rfl | hmain
  · refine ⟨some s.content.summary, rfl, fun _ => ⟨members, congrArg some hsummary, hmembers⟩, ?_⟩
    exact fun h => congrArg (fun t : State => t.response.body) (hidle h)
  · refine ⟨s.response.body, hidle hmain, ?_, fun _ => rfl⟩
    rintro rfl
    refine ⟨members, ?_, hmembers⟩
    rw [← hsummary]
    exact (congrArg (fun t : State => t.response.body) (hidle hmain)).symm

theorem keepsSound_main {main : Stage} (h : main = emitJson ∨ main.IsIdle) : main.KeepsSound := by
  intro ctx s hs
  obtain ⟨body, hrun, -⟩ := exists_body_of_main h ctx s
  rw [hrun]
  exact hs.of_eq rfl rfl

theorem keepsSound_page (format : Format) {main : Stage} (h : main.KeepsSound) (source : Source)
    (registry : Render.Registry) :
    ∀ r ∈ (page format main source registry).stages, r.2.KeepsSound := by
  simp only [stages, page, List.map_cons, List.map_nil, Option.toList_some, List.cons_append,
    List.nil_append, List.forall_mem_cons, List.not_mem_nil, false_implies, implies_true, and_true]
  exact ⟨keepsSound_adaptRequest, keepsSound_fetchMarkdown source, keepsSound_parseMarkdown,
    keepsSound_getMetadata, keepsSound_makeHtml registry, keepsSound_emitHtml, h,
    keepsSound_setContentType _, keepsSound_adaptResponse⟩

/-! ## Runs for a page -/

theorem fetchMarkdown_error {source : Source} {ctx : Context} {e : FetchError} {message : String}
    (h : fetched source ctx = .error (e, message)) (s : State) :
    ((fetchMarkdown source).run ctx s).noted = { s.withStatusOf e with error := some message } := by
  unfold fetched at h
  unfold fetchMarkdown
  dsimp only
  split at h
  · rename_i f hlocation
    cases h
    rw [hlocation]
    rfl
  · rename_i l hlocation
    rw [hlocation]
    unfold fetchAt
    split at h
    · rename_i f hread
      cases h
      simp only [hread]
      rfl
    · cases h

theorem fetchMarkdown_ok {source : Source} {ctx : Context} {uri text : String}
    (h : fetched source ctx = .ok (uri, text)) (s : State) :
    ((fetchMarkdown source).run ctx s).noted = s.withBody uri text := by
  unfold fetched at h
  unfold fetchMarkdown
  dsimp only
  split at h
  · cases h
  · rename_i l hlocation
    rw [hlocation]
    unfold fetchAt
    split at h
    · cases h
    · rename_i body hread
      cases h
      simp only [hread]
      rfl

theorem parseMarkdown_of_body {s : State} {text : String} (h : s.content.body = some text)
    (ctx : Context) :
    (parseMarkdown.run ctx s).noted =
      s.mapContent fun c => { c with mdast := some (Markdown.parse text) } := by
  unfold parseMarkdown
  simp only [h]
  rfl

theorem getMetadata_of_mdast {s : State} {root : Mdast.Node} (h : s.content.mdast = some root)
    (ctx : Context) :
    (getMetadata.run ctx s).noted = s.mapContent fun c => (c.withMetadata root).1 := by
  unfold getMetadata
  simp only [h]
  rfl

theorem makeHtml_error {registry : Render.Registry} {s : State} {root : Mdast.Node}
    {e : Render.Error} (hroot : s.content.mdast = some root)
    (h : Render.document registry root = .error e) (ctx : Context) :
    ((makeHtml registry).run ctx s).noted = { s with error := some e.message } := by
  unfold makeHtml
  simp only [hroot, h]
  rfl

theorem makeHtml_ok {registry : Render.Registry} {s : State} {root : Mdast.Node} {n : View.Node}
    (hroot : s.content.mdast = some root) (h : Render.document registry root = .ok n)
    (ctx : Context) :
    ((makeHtml registry).run ctx s).noted = s.mapContent fun c => c.withDocument (asElement n) := by
  unfold makeHtml
  simp only [hroot, h]
  rfl

theorem emitHtml_of_html {s : State} {html : String} (hbody : s.response.body = none)
    (h : s.content.html = some html) (ctx : Context) :
    (emitHtml.run ctx s).noted = s.mapResponse fun r => { r with body := some (.str html) } := by
  unfold emitHtml Stage.pure
  simp only [hbody, h]
  rfl

theorem isError_fetchStatus (e : FetchError) (body : Option Json) (headers : Dict String) :
    Response.isError ⟨some e.status, body, headers⟩ = true := by
  cases e <;> rfl

theorem toError_fetchStatus (e : FetchError) (body : Option Json) (headers : Dict String)
    (message : String) :
    Response.toError ⟨some e.status, body, headers⟩ message =
      ⟨some e.status, some (errorBody message), headers⟩ := by
  rw [Response.toError, if_pos (isError_fetchStatus e body headers)]
  rfl

theorem toError_unset (body : Option Json) (headers : Dict String) (message : String) :
    Response.toError ⟨none, body, headers⟩ message =
      ⟨some 500, some (errorBody message), headers⟩ := rfl

variable {format : Format} {main : Stage} {source : Source} {registry : Render.Registry}
  {ctx : Context}

theorem page_stages (format : Format) (main : Stage) (source : Source)
    (registry : Render.Registry) :
    (page format main source registry).stages =
      [(.pre, adaptRequest), (.pre, fetchMarkdown source), (.pre, parseMarkdown),
        (.pre, getMetadata), (.pre, makeHtml registry), (.pre, emitHtml), (.once, main),
        (.post, setContentType format.contentType), (.post, adaptResponse)] := rfl

/-- Behind the main stage, the response to an error is made. -/
theorem course_failed (message : String) (r : Request) (c : Content) (status : Option UInt16) :
    Course ctx 7 ⟨some message, r, c, ⟨status, none, .empty⟩⟩
      [(.post, setContentType format.contentType), (.post, adaptResponse)] [7, 8]
      ⟨some message, r, c, Response.toError ⟨status, none, headersOf format⟩ message⟩ := by
  rw [headersOf_eq]
  exact .ran rfl rfl (.ran rfl rfl .nil)

/-- Behind the main stage, a response without an error is completed. -/
theorem course_completed (r : Request) (c : Content) (body : Option Json) :
    Course ctx 7 ⟨none, r, c, ⟨none, body, .empty⟩⟩
      [(.post, setContentType format.contentType), (.post, adaptResponse)] [7, 8]
      ⟨none, r, c, ⟨some 200, body, headersOf format⟩⟩ := by
  rw [headersOf_eq]
  exact .ran rfl rfl (.ran rfl rfl .nil)

/-- If fetching fails, only the stages behind the main stage still run. -/
theorem course_unfetched {e : FetchError} {message : String}
    (h : fetched source ctx = .error (e, message)) :
    Course ctx 0 .empty (page format main source registry).stages [0, 1, 7, 8]
      ⟨some message, requested ctx, .empty,
        ⟨some e.status, some (errorBody message), headersOf format⟩⟩ := by
  rw [page_stages, ← toError_fetchStatus e none (headersOf format) message]
  refine .ran rfl rfl (.ran rfl (fetchMarkdown_error h _) ?_)
  refine .skipped rfl (.skipped rfl (.skipped rfl (.skipped rfl (.skipped rfl ?_))))
  exact course_failed message (requested ctx) .empty (some e.status)

/-- A document that was fetched is read, and its metadata are extracted. -/
theorem course_fetched {uri text : String} {rest : List (Phase × Stage)} {ran : List Nat}
    {s : State} (h : fetched source ctx = .ok (uri, text))
    (hrest : Course ctx 4 ⟨none, requested ctx, .ofText uri text, .empty⟩ rest ran s) :
    Course ctx 0 .empty
      ((.pre, adaptRequest) :: (.pre, fetchMarkdown source) :: (.pre, parseMarkdown) ::
        (.pre, getMetadata) :: rest)
      (0 :: 1 :: 2 :: 3 :: ran) s := by
  refine .ran rfl rfl (.ran rfl (fetchMarkdown_ok h _) ?_)
  exact .ran rfl (parseMarkdown_of_body rfl ctx) (.ran rfl (getMetadata_of_mdast rfl ctx) hrest)

/-- If rendering fails, the stages behind the main stage still run. -/
theorem course_unrendered {r : Request} {c : Content} {root : Mdast.Node} {e : Render.Error}
    (hroot : c.mdast = some root) (h : Render.document registry root = .error e) :
    Course ctx 4 ⟨none, r, c, .empty⟩
      [(.pre, makeHtml registry), (.pre, emitHtml), (.once, main),
        (.post, setContentType format.contentType), (.post, adaptResponse)] [4, 7, 8]
      ⟨some e.message, r, c, ⟨some 500, some (errorBody e.message), headersOf format⟩⟩ := by
  rw [← toError_unset none (headersOf format) e.message]
  refine .ran rfl (makeHtml_error hroot h ctx) (.skipped rfl (.skipped rfl ?_))
  exact course_failed e.message r c none

/-- The state that the main stage receives. -/
def stateOfDocument (r : Request) (c : Content) (n : View.Node) : State :=
  ⟨none, r, c.withDocument (asElement n), ⟨none, some (.str (asElement n).outerHtml), .empty⟩⟩

/-- If nothing fails, every stage runs. -/
theorem course_rendered {r : Request} {c : Content} {root : Mdast.Node} {n : View.Node}
    {body : Option Json} (hroot : c.mdast = some root)
    (h : Render.document registry root = .ok n)
    (hmain : (main.run ctx (stateOfDocument r c n)).noted =
      (stateOfDocument r c n).mapResponse fun q => { q with body }) :
    Course ctx 4 ⟨none, r, c, .empty⟩
      [(.pre, makeHtml registry), (.pre, emitHtml), (.once, main),
        (.post, setContentType format.contentType), (.post, adaptResponse)] [4, 5, 6, 7, 8]
      ⟨none, r, c.withDocument (asElement n), ⟨some 200, body, headersOf format⟩⟩ := by
  refine .ran rfl (makeHtml_ok hroot h ctx) (.ran rfl (emitHtml_of_html rfl rfl ctx) ?_)
  exact .ran rfl hmain (course_completed r (c.withDocument (asElement n)) body)

/-! ## The one way to turn out -/

/-- The way in which the run for a page turns out. -/
def turnout (source : Source) (registry : Render.Registry) (ctx : Context) : Turnout :=
  match fetched source ctx with
  | .error (e, message) => .unfetched e message
  | .ok (uri, text) =>
    match Render.document registry (Markdown.parse text) with
    | .error e => .unrendered uri text e
    | .ok n => .rendered uri text n

/-- A run turns out in one way at most. -/
theorem Turnout.Describes.eq_turnout {ran : List Nat} {s : State} {t : Turnout}
    (h : t.Describes format main source registry ctx ran s) : t = turnout source registry ctx := by
  -- Every way records what fetching and rendering came to, and this decides the way.
  cases t with
  | unfetched e message =>
      have hfetched := fetched_eq_error_iff.2 (Unfetched.fails h)
      simp [turnout, hfetched]
  | unrendered uri text e =>
      have hfetched := fetched_eq_ok_iff.2 (Unrendered.fetched h)
      have hrendered := Unrendered.rendered h
      simp [turnout, hfetched, hrendered]
  | rendered uri text n =>
      have hfetched := fetched_eq_ok_iff.2 (Rendered.fetched h)
      have hrendered := Rendered.rendered h
      simp [turnout, hfetched, hrendered]

theorem ensureErrorStatus_eq {s : State} (h : s.error = none ∨ s.response.isError = true) :
    ensureErrorStatus s = s := by
  obtain ⟨error, request, content, response⟩ := s
  cases error with
  | none => rfl
  | some message =>
      rcases h with h | h
      · cases h
      · exact if_pos h

/-- The stages for a page have a course, at the end of which the page has turned out. -/
theorem exists_course (format : Format) (hmain : main = emitJson ∨ main.IsIdle) (source : Source)
    (registry : Render.Registry) (ctx : Context) :
    ∃ ran s, Course ctx 0 .empty (page format main source registry).stages ran s ∧
      (turnout source registry ctx).Describes format main source registry ctx ran
        (ensureErrorStatus s) := by
  -- The ways part where a stage can fail: at fetching, and behind it at rendering.
  cases hfetched : fetched source ctx with
  | error failure =>
      obtain ⟨e, message⟩ := failure
      refine ⟨_, _, course_unfetched hfetched, ?_⟩
      rw [ensureErrorStatus_eq (.inr (isError_fetchStatus e _ _)), turnout, hfetched]
      exact ⟨fetched_eq_error_iff.1 hfetched, rfl, ⟨e.status, rfl, statusOf_status e⟩, rfl, rfl,
        passes_requested ctx, rfl, rfl⟩
  | ok found =>
      obtain ⟨uri, text⟩ := found
      have hfetches := fetched_eq_ok_iff.1 hfetched
      have hread := Content.reads_ofText uri text
      cases hrendered : Render.document registry (Markdown.parse text) with
      | error e =>
          refine ⟨_, _, course_fetched hfetched (course_unrendered hread.mdast hrendered), ?_⟩
          rw [ensureErrorStatus_eq (.inr rfl)]
          simp only [turnout, hfetched, hrendered]
          refine ⟨hfetches, hrendered, rfl, rfl, rfl, rfl, passes_requested ctx, ?_, ?_, rfl⟩ <;>
            dsimp only
          · exact hread
          · exact Content.unrendered_ofText uri text
      | ok n =>
          obtain ⟨body, hmain, hsummary, hidle⟩ :=
            exists_body_of_main hmain ctx (stateOfDocument (requested ctx) (.ofText uri text) n)
          refine ⟨_, _, course_fetched hfetched (course_rendered hread.mdast hrendered hmain), ?_⟩
          rw [ensureErrorStatus_eq (.inl rfl)]
          simp only [turnout, hfetched, hrendered]
          exact ⟨hfetches, hrendered, rfl, rfl, hsummary, hidle, rfl, passes_requested ctx,
            hread.withDocument (asElement n),
            ⟨asElement n, frames_asElement n, Content.renders_withDocument _ n⟩, rfl⟩

/-- No check of a run for a page fails, and the run turns out in exactly one way, whatever the
document, the format and the matchers are. -/
theorem page_turnout (format : Format) {main : Stage} (hmain : main = emitJson ∨ main.IsIdle)
    (source : Source) (registry : Render.Registry) (files : Files) {ctx : Context}
    (hctx : ContextConforms ctx) :
    let p := page format main source registry
    let check := SchemaSource.bundled.check files
    let ran := executions (p.steps check ctx)
    (∀ x ∈ ran, check x.shown ctx x.number = .ok ()) ∧
      ∃! t : Turnout,
        t.Describes format main source registry ctx (ran.map Execution.number)
          (p.run check ctx) := by
  intro p check ran
  have hcheck : ∀ s : State, s.Sound → ∀ n, check s ctx n = .ok () :=
    fun s hs n => hs.check hctx files n
  obtain ⟨places, s, hcourse, hturnout⟩ := exists_course format hmain source registry ctx
  obtain ⟨hpass, hplaces, hlast⟩ :=
    hcourse.record hcheck (keepsSound_page format (keepsSound_main hmain) source registry)
      ⟨Content.sound_empty, by simp [State.empty, Response.empty]⟩
  refine ⟨hpass, turnout source registry ctx, ?_, fun t ht => ht.eq_turnout⟩
  have hrun : p.run check ctx = ensureErrorStatus s := congrArg ensureErrorStatus hlast
  rw [hrun]
  exact hplaces ▸ hturnout

/-- A request with open parameters, one of them of the host, and with a secret. -/
def printRequest : Context where
  params :=
    { RawParams.empty with
      owner := some "adobe"
      repo := some "docs"
      path := some "/index.md"
      extra := .ofList [("selector", "print"), ("__ow_method", "get")] }
  secrets := ⟨none, .ofList [("CACHE_1", "on")]⟩

/-- A directory with one document. -/
def helloFiles : Files :=
  ⟨"/srv", [], .directory [("index.md", .file (some "# Hello"))]⟩

theorem page_turnout_printRequest :
    ContextConforms printRequest ∧
      let source := Source.directory helloFiles "/srv"
      let p := page .html emitJson source []
      let check := SchemaSource.bundled.check helloFiles
      let ran := executions (p.steps check printRequest)
      (∀ x ∈ ran, check x.shown printRequest x.number = .ok ()) ∧
        ∃! t : Turnout,
          t.Describes .html emitJson source [] printRequest (ran.map Execution.number)
            (p.run check printRequest) := by
  have hconforms : ContextConforms printRequest := by
    refine ⟨Dict.forall_mem_ofList (by decide), Dict.forall_mem_ofList ?_⟩
    simp only [List.forall_mem_singleton]
    exact ⟨by decide, List.all_eq_true.1 (by decide)⟩
  exact ⟨hconforms, page_turnout .html (.inl rfl) _ [] helloFiles hconforms⟩

end Pipeline

end PagePress
