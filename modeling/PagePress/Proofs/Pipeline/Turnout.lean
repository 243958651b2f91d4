import PagePress.Proofs.Dictionary
import PagePress.Proofs.Fetch.Location
import PagePress.Proofs.Pipeline.Metadata
import PagePress.Proofs.Pipeline.TopLevel

/-!
# Turnout — the ways in which the run for a page can turn out

What the state behind a run holds is told from the parameters, the text of the document and the
view tree, field by field.

* `Request.Passes` are the parameters that a request passes on;
* `Content.Reads` and `Content.Renders` are the content of a document that was read, and of one that
  was rendered;
* `Summarises` are the members of a JSON object that sums up content;
* `FetchFails` and `Fetches` tell what comes of fetching a document, which is what `fetched` gives;
* `Unfetched`, `Unrendered` and `Rendered` are the three ways, and `Turnout` names them.
-/

namespace PagePress

namespace Pipeline

open Fetch (FetchError Location Required Source firstMissing?)

/-! ## Requests -/

/-- A request passes parameters on: those with a meaning of their own, unless an open one takes
the name, and the open ones whose names do not begin with two underscores. -/
structure Request.Passes (r : Request) (p : RawParams) : Prop where
  named : ∀ e ∈ [("owner", p.owner), ("repo", p.repo), ("ref", p.ref), ("path", p.path)],
    r.params.get? e.1 = ((p.extra.get? e.1).or e.2).map .single
  passed : ∀ k ∉ ["owner", "repo", "ref", "path"], ¬ ['_', '_'] <+: k.toList →
    r.params.get? k = (p.extra.get? k).map .single
  withheld : ∀ k : String, ['_', '_'] <+: k.toList → r.params.get? k = none

/-- The request that a page is made for. -/
def requested (ctx : Context) : Request :=
  ctx.params.passed.foldl (fun r e => r.set e.1 e.2) .empty

theorem isHostParam_iff {k : String} : isHostParam k = true ↔ ['_', '_'] <+: k.toList :=
  List.isPrefixOf_iff_prefix

theorem requested_params (ctx : Context) :
    (requested ctx).params = .ofList (ctx.params.passed.map fun e => (e.1, .single e.2)) := by
  rw [Dict.ofList, List.foldl_map]
  exact (List.foldl_hom Request.params fun _ _ => rfl).symm

/-- Of the open parameters those that are not of the host are stored. -/
theorem get?_ofList_open (d : Dict String) (k : String) :
    (Dict.ofList ((d.entries.filter fun e => !isHostParam e.1).map
      fun e => (e.1, Param.single e.2))).get? k =
        if isHostParam k then none else (d.get? k).map .single := by
  have hentries : (d.entries.filter fun e => !isHostParam e.1).map
      (fun e => (e.1, Param.single e.2)) =
      ((d.filterKeys fun k => !isHostParam k).filterMap fun _ s => some (.single s)).entries :=
    (congrFun List.filterMap_eq_map _).symm
  rw [hentries, Dict.ofList_entries, Dict.get?_filterMap, Dict.get?_filterKeys]
  cases isHostParam k with
  | true => rfl
  | false => exact (Option.map_eq_bind ..).symm

/-- What a request holds for a name: the open parameter, or else the one with a meaning of its
own. -/
theorem get?_requested (ctx : Context) (k : String) :
    (requested ctx).params.get? k =
      (if isHostParam k then none else (ctx.params.extra.get? k).map .single).or
        (((if k = "path" then ctx.params.path else none).or
          ((if k = "ref" then ctx.params.ref else none).or
            ((if k = "repo" then ctx.params.repo else none).or
              (if k = "owner" then ctx.params.owner else none)))).map .single) := by
  have hentry : ∀ (k : String) (v : Option String),
      (v.map fun s => (k, s)).toList.map (fun e => (e.1, Param.single e.2)) =
        (v.map fun s => (k, Param.single s)).toList := by
    intro k v
    cases v <;> rfl
  rw [requested_params, RawParams.passed]
  -- What is stored last is found first.
  simp only [List.map_append, hentry, Dict.get?_ofList_append, Dict.get?_ofList_toList,
    get?_ofList_open]
  simp only [Option.map_or, apply_ite (Option.map Param.single), Option.map_none]

theorem passes_requested (ctx : Context) : (requested ctx).Passes ctx.params := by
  -- No name with a meaning of its own is one of the host, so that the cases do not overlap.
  have hnames : ∀ name ∈ ["owner", "repo", "ref", "path"], isHostParam name = false := by decide
  refine ⟨?_, ?_, ?_⟩
  · simp only [List.forall_mem_cons] at hnames
    simp [get?_requested, hnames, Option.map_or]
  · intro k hk hhost
    rw [← isHostParam_iff, Bool.not_eq_true] at hhost
    simp only [List.mem_cons, List.not_mem_nil, or_false, not_or] at hk
    simp [get?_requested, hhost, hk]
  · intro k hk
    rw [← isHostParam_iff] at hk
    have hne : ∀ name ∈ ["owner", "repo", "ref", "path"], k ≠ name := by
      rintro name hname rfl
      simp [hnames k hname] at hk
    simp only [List.forall_mem_cons] at hne
    simp [get?_requested, hk, hne]

/-! ## Content -/

/-- The content of a document that was read, whether it is rendered or not. -/
structure Content.Reads (c : Content) (uri text : String) : Prop where
  sources : c.sources = [uri]
  body : c.body = some text
  mdast : c.mdast = some (Markdown.parse text)
  notes : c.Notes (Markdown.parse text)

/-- The content of a document with a markdown tree, before it is rendered. -/
def Content.ofTree (uri text : String) (root : Mdast.Node) : Content :=
  (Content.withMetadata
    { Content.empty with sources := [uri], body := some text, mdast := some root } root).1

/-- The content of a document that was read, before it is rendered. -/
def Content.ofText (uri text : String) : Content := .ofTree uri text (Markdown.parse text)

-- The tree stays general, so that nothing of this computes it.
theorem Content.ofTree_rest (uri text : String) (root : Mdast.Node) :
    ((ofTree uri text root).sources = [uri] ∧ (ofTree uri text root).body = some text ∧
      (ofTree uri text root).mdast = some root ∧ (ofTree uri text root).Notes root) ∧
    (ofTree uri text root).document = none ∧ (ofTree uri text root).html = none ∧
      (ofTree uri text root).children = [] :=
  ⟨⟨rfl, rfl, rfl, notes_withMetadata _ root⟩, rfl, rfl, rfl⟩

theorem Content.reads_ofText (uri text : String) : (ofText uri text).Reads uri text := by
  obtain ⟨⟨hsources, hbody, hmdast, hnotes⟩, -⟩ := ofTree_rest uri text (Markdown.parse text)
  exact ⟨hsources, hbody, hmdast, hnotes⟩

theorem Content.unrendered_ofText (uri text : String) :
    (ofText uri text).document = none ∧ (ofText uri text).html = none ∧
      (ofText uri text).children = [] :=
  (ofTree_rest uri text (Markdown.parse text)).2

theorem Content.Notes.withDocument {c : Content} {root : Mdast.Node} (h : c.Notes root)
    (d : View.Node) : (c.withDocument d).Notes root where
  toSurveys := ⟨h.partitioned, h.ne_nil, h.together, h.title, h.intro, h.image⟩
  described := h.described
  metadata := h.metadata
  firstTitle := h.firstTitle
  firstIntro := h.firstIntro
  firstImage := h.firstImage

/-- Rendering a document leaves alone what was read of it. -/
theorem Content.Reads.withDocument {c : Content} {uri text : String} (h : c.Reads uri text)
    (d : View.Node) : (c.withDocument d).Reads uri text where
  sources := h.sources
  body := h.body
  mdast := h.mdast
  notes := h.notes.withDocument d

/-- The element that a view tree is turned into: a text is put into a container. -/
inductive Frames : View.Node → View.Node → Prop where
  | element (t : String) (as : Dict String) (cs : List View.Node) :
      Frames (.element t as cs) (.element t as cs)
  | text (s : String) : Frames (.text s) (.element "div" .empty [.text s])

theorem frames_asElement (n : View.Node) : Frames n (asElement n) := by
  cases n with
  | element t as cs => exact .element t as cs
  | text s => exact .text s

/-- The HTML of each element at the top of a document: of those in a container without attributes,
or else of the document itself. -/
inductive ListsTop : View.Node → List String → Prop where
  | container (cs : List View.Node) :
      ListsTop (.element "div" .empty cs) ((cs.filter View.Node.isElement).map View.Node.outerHtml)
  | itself {d : View.Node} : (∀ cs, d ≠ .element "div" .empty cs) → ListsTop d [d.outerHtml]

theorem listsTop_topLevelHtml {d : View.Node} (hd : d.isElement = true) :
    ListsTop d (topLevelHtml d) := by
  by_cases h : ∃ cs, d = .element "div" .empty cs
  · obtain ⟨cs, rfl⟩ := h
    exact .container cs
  · rw [topLevelHtml_of_not_container hd fun cs hcs => h ⟨cs, hcs⟩]
    exact .itself fun cs hcs => h ⟨cs, hcs⟩

/-- The content holds a rendered document. -/
structure Content.Renders (c : Content) (d : View.Node) : Prop where
  document : c.document = some d
  html : c.html = some d.outerHtml
  children : ListsTop d c.children

theorem Content.renders_withDocument (c : Content) (n : View.Node) :
    (c.withDocument (asElement n)).Renders (asElement n) :=
  ⟨rfl, rfl, listsTop_topLevelHtml (isElement_asElement n)⟩

/-! ## Summaries -/

/-- Members of a JSON object sum up content: what was noted of the document, its HTML, and how many
sections there are.  What is missing is null. -/
structure Summarises (members : List (String × Json)) (c : Content) : Prop where
  names : members.map Prod.fst = ["html", "image", "intro", "meta", "sections", "title"]
  title : ("title", c.title.elim .null .str) ∈ members
  intro : ("intro", c.intro.elim .null .str) ∈ members
  image : ("image", c.image.elim .null .str) ∈ members
  metadata : ("meta", c.metadata.elim .null fun d => .obj d.entries) ∈ members
  html : ("html", c.html.elim .null .str) ∈ members
  sections : ("sections", .int c.sections.length) ∈ members

theorem ofText?_eq_elim (s : Option String) : Json.ofText? s = s.elim .null .str := by
  cases s <;> rfl

theorem exists_summarises (c : Content) :
    ∃ members, c.summary = .obj members ∧ Summarises members c := by
  have hmeta : Json.orNull (c.metadata.map Json.ofDict) =
      c.metadata.elim .null fun d => .obj d.entries := by
    cases c.metadata <;> rfl
  have hsummary : c.summary = .obj [("html", c.html.elim .null .str),
      ("image", c.image.elim .null .str), ("intro", c.intro.elim .null .str),
      ("meta", c.metadata.elim .null fun d => .obj d.entries),
      ("sections", .int c.sections.length), ("title", c.title.elim .null .str)] := by
    rw [Content.summary, Json.mkObj, Json.ofDict, hmeta]
    simp +decide only [Dict.ofList, List.foldl_cons, List.foldl_nil, Dict.insert, Entries.put,
      Dict.empty, ofText?_eq_elim, Json.ofNat, if_true, if_false]
  refine ⟨_, hsummary, rfl, ?_, ?_, ?_, ?_, ?_, ?_⟩ <;> simp

/-! ## Fetching -/

/-- How fetching the document of a request fails, with the message of the stage: a parameter is
missing, or the document cannot be read where the parameters locate it. -/
inductive FetchFails (source : Source) (ctx : Context) : FetchError → String → Prop where
  | missing {p : Required} : firstMissing? ctx.params = some p →
      FetchFails source ctx (.missingParam p.name)
        ("Unknown " ++ p.name ++ ", cannot fetch content")
  | unread {l : Location} {e : FetchError} : Location.Located ctx l → source.read l = .error e →
      FetchFails source ctx e ("Error while fetching markdown from " ++ source.uri l)

/-- The document of a request is read: its address and its text. -/
inductive Fetches (source : Source) (ctx : Context) : String → String → Prop where
  | read {l : Location} {text : String} : Location.Located ctx l → source.read l = .ok text →
      Fetches source ctx (source.uri l) text

/-- The status of a response to an error in fetching. -/
inductive StatusOf : FetchError → UInt16 → Prop where
  | missing (name : String) : StatusOf (.missingParam name) 400
  | absent (address : String) : StatusOf (.notFound address) 404
  | http (reason : String) : StatusOf (.http reason) 502
  | io (reason : String) : StatusOf (.io reason) 502

theorem statusOf_status (e : FetchError) : StatusOf e e.status := by
  cases e with
  | missingParam name => exact .missing name
  | notFound address => exact .absent address
  | http reason => exact .http reason
  | io reason => exact .io reason

/-- What comes of fetching the document of a request: its address and its text, or the error and
the message of the stage. -/
def fetched (source : Source) (ctx : Context) : Except (FetchError × String) (String × String) :=
  match Location.ofContext ctx with
  | .error e => .error (e, e.message)
  | .ok l =>
    match source.read l with
    | .error e => .error (e, "Error while fetching markdown from " ++ source.uri l)
    | .ok text => .ok (source.uri l, text)

theorem fetched_eq_error_iff {source : Source} {ctx : Context} {e : FetchError}
    {message : String} :
    fetched source ctx = .error (e, message) ↔ FetchFails source ctx e message := by
  constructor
  · intro h
    unfold fetched at h
    split at h
    · next hlocation =>
        obtain ⟨p, hmissing, rfl⟩ := Location.ofContext_eq_error_iff.1 hlocation
        cases h
        exact .missing hmissing
    · next l hlocation =>
        split at h
        · next hread =>
            cases h
            exact .unread (Location.located_of_ofContext hlocation) hread
        · cases h
  · intro h
    cases h with
    | missing hmissing =>
        rw [fetched, Location.ofContext_eq_error_iff.2 ⟨_, hmissing, rfl⟩]
        rfl
    | unread hlocated hread =>
        simp only [fetched, Location.ofContext_of_located hlocated, hread]

theorem fetched_eq_ok_iff {source : Source} {ctx : Context} {uri text : String} :
    fetched source ctx = .ok (uri, text) ↔ Fetches source ctx uri text := by
  constructor
  · intro h
    unfold fetched at h
    split at h
    · cases h
    · next l hlocation =>
        split at h
        · cases h
        · next hread =>
            cases h
            exact .read (Location.located_of_ofContext hlocation) hread
  · rintro ⟨hlocated, hread⟩
    simp only [fetched, Location.ofContext_of_located hlocated, hread]

/-! ## Ways to turn out -/

/-- The body of a response to an error. -/
def errorBody (message : String) : Json := .obj [("error", .str message)]

/-- The headers of a page. -/
def headersOf : Format → Dict String
  | .json => .ofList [("Content-Type", "application/json")]
  | .html => .ofList [("Content-Type", "text/html")]

theorem headersOf_eq (format : Format) :
    headersOf format = Dict.empty.insert contentTypeHeader format.contentType := by
  cases format <;> rfl

/-- The stage completes and changes nothing. -/
def Stage.IsIdle (stage : Stage) : Prop :=
  ∀ (ctx : Context) (s : State), ∃ log, stage.run ctx s = .completed s log

/-- The document could not be fetched. -/
structure Unfetched (format : Format) (source : Source) (ctx : Context) (e : FetchError)
    (message : String) (ran : List Nat) (s : State) : Prop where
  fails : FetchFails source ctx e message
  error : s.error = some message
  status : ∃ n, s.response.status = some n ∧ StatusOf e n
  body : s.response.body = some (errorBody message)
  headers : s.response.headers = headersOf format
  request : s.request.Passes ctx.params
  content : s.content = .empty
  /-- Only the first two stages and those behind the main stage ran. -/
  ran : ran = [0, 1, 7, 8]

/-- The document was fetched, but could not be rendered. -/
structure Unrendered (format : Format) (source : Source) (registry : Render.Registry)
    (ctx : Context) (uri text : String) (e : Render.Error) (ran : List Nat) (s : State) :
    Prop where
  fetched : Fetches source ctx uri text
  rendered : Render.document registry (Markdown.parse text) = .error e
  error : s.error = some e.message
  status : s.response.status = some 500
  body : s.response.body = some (errorBody e.message)
  headers : s.response.headers = headersOf format
  request : s.request.Passes ctx.params
  read : s.content.Reads uri text
  unrendered : s.content.document = none ∧ s.content.html = none ∧ s.content.children = []
  /-- The rest of the stages before the main stage did not run, nor did the main stage. -/
  ran : ran = [0, 1, 2, 3, 4, 7, 8]

/-- The document was rendered. -/
structure Rendered (format : Format) (main : Stage) (source : Source)
    (registry : Render.Registry) (ctx : Context) (uri text : String) (n : View.Node)
    (ran : List Nat) (s : State) : Prop where
  fetched : Fetches source ctx uri text
  rendered : Render.document registry (Markdown.parse text) = .ok n
  error : s.error = none
  status : s.response.status = some 200
  summarised : main = emitJson →
    ∃ members, s.response.body = some (.obj members) ∧ Summarises members s.content
  idle : main.IsIdle → s.response.body = s.content.html.map .str
  headers : s.response.headers = headersOf format
  request : s.request.Passes ctx.params
  read : s.content.Reads uri text
  renders : ∃ d, Frames n d ∧ s.content.Renders d
  /-- Every stage ran. -/
  ran : ran = [0, 1, 2, 3, 4, 5, 6, 7, 8]

/-- The ways in which the run for a page can turn out. -/
inductive Turnout where
  | unfetched (e : FetchError) (message : String)
  | unrendered (uri text : String) (e : Render.Error)
  | rendered (uri text : String) (n : View.Node)

/-- A run turned out in this way: stages ran at these places, and the state behind them is that. -/
def Turnout.Describes (format : Format) (main : Stage) (source : Source)
    (registry : Render.Registry) (ctx : Context) (ran : List Nat) (s : State) : Turnout → Prop
  | unfetched e message => Unfetched format source ctx e message ran s
  | unrendered uri text e => Unrendered format source registry ctx uri text e ran s
  | rendered uri text n => Rendered format main source registry ctx uri text n ran s

end Pipeline

end PagePress
