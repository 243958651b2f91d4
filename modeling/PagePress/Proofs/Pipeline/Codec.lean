import PagePress.Pipeline.Codec
import PagePress.Proofs.Mdast.Codec
import PagePress.Proofs.View.Codec

/-!
# The state as JSON — a state is read back from what is written for it

Parameters and view nodes are told apart by the kind of their JSON, and what is not written is what
is read when it is missing.  Only one value is both written and read as if it were missing: a
response body that is `null`.

* one lemma for each record of the state: it is read back if its parts are;
* `State.FieldsApart`: no node of the state has an extra field with the name of a standard one;
* `State.json_faithful`: such a state is read back but for a body that is `null`.
-/

namespace PagePress

namespace Pipeline

open Json (ReadsBack)

/-! ## Entries -/

@[simp] theorem get?_fieldOf (k k' : String) (v : Option Json) :
    (Dict.ofList (fieldOf k' v)).get? k = if k = k' then v else none := by
  cases v <;> simp [fieldOf]

@[simp] theorem get?_textFieldOf (k k' : String) (v : Option String) :
    (Dict.ofList (textFieldOf k' v)).get? k = if k = k' then v.map .str else none :=
  get?_fieldOf k k' (v.map .str)

@[simp] theorem get?_listFieldOf (k k' : String) (js : List Json) :
    (Dict.ofList (listFieldOf k' js)).get? k =
      if k = k' then if js = [] then none else some (.arr js) else none := by
  cases js <;> simp [listFieldOf]

/-! ## Requests -/

theorem ofJson?_param (p : Param) : Param.ofJson? p.toJson = some p := by
  cases p with
  | single s => rfl
  | multiple ss =>
      have hread : Json.strings? (Json.ofStrings ss) = some ss :=
        (Json.readsBack_strings ss).read_write
      exact congrArg (Option.map Param.multiple) hread

theorem readsBack_request (r : Request) : ReadsBack Request.toJson Request.ofJson? r := by
  refine ⟨nofun, ?_⟩
  have hparams := Json.readsBack_dict (d := r.params) fun e _ => ofJson?_param e.2
  unfold Request.toJson Request.ofJson?
  rw [Json.mkObj, Json.record?_ofDict, Option.bind_eq_bind, Option.bind_some,
    Json.Record.defaulted?_of_get? (by simp) hparams]
  rfl

/-! ## Content -/

theorem readsBack_section {s : Section}
    (h : ∀ m ∈ Mdast.Node.walkAll s.children, m.FieldsApart) :
    ReadsBack Section.toJson Section.ofJson? s := by
  refine ⟨nofun, ?_⟩
  unfold Section.toJson Section.ofJson? Json.mkObj
  rw [Mdast.Node.listToJson_eq_map, Json.record?_ofDict, Option.bind_eq_bind, Option.bind_some]
  generalize hr : Json.Record.named _ = r
  have htypes : r.defaulted? 0 "types" [] Json.strings? = some s.types :=
    Json.Record.defaulted?_strings (by simp [← hr])
  have hchildren : r.defaulted? 1 "children" [] (Json.listOf? Mdast.Node.ofJson?) =
      some s.children :=
    Json.Record.defaulted?_list (by simp [← hr]) fun n hn =>
      Mdast.Node.ofJson?_toJson fun m hm => h m (Mdast.Node.mem_walkAll.2 ⟨n, hn, hm⟩)
  have hposition : r.optional? 2 "position" Mdast.Position.ofJson? = some s.position :=
    Json.Record.optional?_of_get? (by simp [← hr]) fun p _ => Mdast.readsBack_position p
  have hmetadata : r.optional? 3 "meta" Json.object? = some s.metadata :=
    Json.Record.optional?_of_get? (by simp [← hr]) fun m _ => Json.readsBack_object m
  have htitle : r.optional? 4 "title" Json.str? = some s.title :=
    Json.Record.optional?_text (by simp [← hr])
  have hintro : r.optional? 5 "intro" Json.str? = some s.intro :=
    Json.Record.optional?_text (by simp [← hr])
  have himage : r.optional? 6 "image" Json.str? = some s.image :=
    Json.Record.optional?_text (by simp [← hr])
  simp only [htypes, hchildren, hposition, hmetadata, htitle, hintro, himage,
    Option.bind_eq_bind, Option.bind_some]

theorem readsBack_content {c : Content}
    (hmdast : ∀ n ∈ c.mdast, ∀ m ∈ n.walk, m.FieldsApart)
    (hsections : ∀ s ∈ c.sections, ∀ m ∈ Mdast.Node.walkAll s.children, m.FieldsApart) :
    ReadsBack Content.toJson Content.ofJson? c := by
  refine ⟨nofun, ?_⟩
  unfold Content.toJson Content.ofJson? Json.mkObj
  rw [Json.record?_ofDict, Option.bind_eq_bind, Option.bind_some]
  generalize hr : Json.Record.named _ = r
  have hsources : r.defaulted? 0 "sources" [] Json.strings? = some c.sources :=
    Json.Record.defaulted?_strings (by simp [← hr])
  have hbody : r.optional? 1 "body" Json.str? = some c.body :=
    Json.Record.optional?_text (by simp [← hr])
  have htree : r.optional? 2 "mdast" Mdast.Node.ofJson? = some c.mdast :=
    Json.Record.optional?_of_get? (by simp [← hr]) fun n hn =>
      Mdast.Node.readsBack (hmdast n hn)
  have hparts : r.defaulted? 3 "sections" [] (Json.listOf? Section.ofJson?) = some c.sections :=
    Json.Record.defaulted?_list (by simp [← hr]) fun s hs =>
      (readsBack_section (hsections s hs)).read_write
  have hdocument : r.optional? 4 "document" View.Node.ofJson? = some c.document :=
    Json.Record.optional?_of_get? (by simp [← hr]) fun n _ => View.Node.readsBack n
  have hhtml : r.optional? 5 "html" Json.str? = some c.html :=
    Json.Record.optional?_text (by simp [← hr])
  have hchildren : r.defaulted? 6 "children" [] Json.strings? = some c.children :=
    Json.Record.defaulted?_strings (by simp [← hr])
  have hmetadata : r.optional? 7 "meta" Json.object? = some c.metadata :=
    Json.Record.optional?_of_get? (by simp [← hr]) fun m _ => Json.readsBack_object m
  have htitle : r.optional? 8 "title" Json.str? = some c.title :=
    Json.Record.optional?_text (by simp [← hr])
  have hintro : r.optional? 9 "intro" Json.str? = some c.intro :=
    Json.Record.optional?_text (by simp [← hr])
  have himage : r.optional? 10 "image" Json.str? = some c.image :=
    Json.Record.optional?_text (by simp [← hr])
  simp only [hsources, hbody, htree, hparts, hdocument, hhtml, hchildren, hmetadata, htitle,
    hintro, himage, Option.bind_eq_bind, Option.bind_some]

/-! ## Responses and states -/

/-- The response with an absent body for one that is `null`. -/
def Response.withoutNullBody (r : Response) : Response :=
  { r with body := r.body.filter fun v => !v.isNull }

theorem ofJson?_response (r : Response) : Response.ofJson? r.toJson = some r.withoutNullBody := by
  unfold Response.toJson Response.ofJson? Json.mkObj
  rw [Json.record?_ofDict, Option.bind_eq_bind, Option.bind_some]
  generalize hrecord : Json.Record.named _ = x
  have hstatus : x.optional? 0 "status" Json.short? = some r.status :=
    Json.Record.optional?_of_get? (by simp [← hrecord]) fun n _ => Json.readsBack_short n
  -- Any value is a body, so the one that is read as absent is not told from a missing one.
  have hbody : x.optional? 1 "body" some = some r.withoutNullBody.body := by
    have hget : x.get? 1 "body" = r.body := by simp [← hrecord]
    rw [Json.Record.optional?, hget, Response.withoutNullBody]
    cases r.body with
    | none => rfl
    | some v => cases v <;> rfl
  have hheaders : x.defaulted? 2 "headers" .empty Json.texts? = some r.headers :=
    Json.Record.defaulted?_of_get? (by simp [← hrecord]) (Json.readsBack_texts r.headers) _
  simp only [hstatus, hbody, hheaders, Option.bind_eq_bind, Option.bind_some]
  rfl

/-- The nodes of the markdown trees of a state: of the document and of its sections. -/
def State.nodes (s : State) : List Mdast.Node :=
  Mdast.Node.walkAll (s.content.mdast.toList ++ s.content.sections.flatMap Section.children)

/-- The state is read back from what is written for it, but for a response body that is `null` and
comes back as an absent one, unless a node of its trees has an extra field with the name of a
standard one. -/
theorem state_json_faithful (s : State) (h : ∀ m ∈ s.nodes, m.FieldsApart) :
    State.ofJson? s.toJson = some (s.mapResponse Response.withoutNullBody) := by
  -- The nodes of the state are those of the document and those of the sections.
  have hmdast : ∀ n ∈ s.content.mdast, ∀ m ∈ n.walk, m.FieldsApart := by
    intro n hn m hm
    refine h m (Mdast.Node.mem_walkAll.2 ⟨n, List.mem_append_left _ ?_, hm⟩)
    simpa using hn
  have hsections : ∀ x ∈ s.content.sections, ∀ m ∈ Mdast.Node.walkAll x.children,
      m.FieldsApart := by
    intro x hx m hm
    obtain ⟨n, hn, hm⟩ := Mdast.Node.mem_walkAll.1 hm
    refine h m (Mdast.Node.mem_walkAll.2 ⟨n, List.mem_append_right _ ?_, hm⟩)
    exact List.mem_flatMap.2 ⟨x, hx, hn⟩
  unfold State.toJson State.ofJson? Json.mkObj
  rw [Json.record?_ofDict, Option.bind_eq_bind, Option.bind_some]
  generalize hr : Json.Record.named _ = r
  have herror : r.optional? 0 "error" Json.str? = some s.error :=
    Json.Record.optional?_text (by simp [← hr])
  have hrequest : r.defaulted? 1 "request" .empty Request.ofJson? = some s.request :=
    Json.Record.defaulted?_of_get? (by simp [← hr]) (readsBack_request s.request) _
  have hcontent : r.defaulted? 2 "content" .empty Content.ofJson? = some s.content :=
    Json.Record.defaulted?_of_get? (by simp [← hr]) (readsBack_content hmdast hsections) _
  have hresponse : r.defaulted? 3 "response" .empty Response.ofJson? =
      some s.response.withoutNullBody := by
    have hget : r.get? 3 "response" = some s.response.toJson := by simp [← hr]
    rw [Json.Record.defaulted?, hget]
    exact ofJson?_response s.response
  simp only [herror, hrequest, hcontent, hresponse, Option.bind_eq_bind, Option.bind_some]
  rfl

/-- A state with a value of every sort and a body that is `null`. -/
def mixedState : State where
  error := some "Invalid Context at step 2"
  request := ⟨.ofList [("path", .single "/index.md"), ("tag", .multiple ["a", "b"]),
    ("none", .multiple [])]⟩
  content :=
    { Content.empty with
      sources := ["index.md"]
      mdast := some (.mk "root" .none
        [.mk "note" { Mdast.Fields.none with extra := .ofList [("data", .null)] } []])
      sections :=
        [{ Section.empty with
            types := ["has-text"]
            children := [Mdast.Node.text "note"]
            metadata := some (.ofList [("draft", .null)]) }]
      document := some (.element "p" (.ofList [("class", "note")]) [.text "note"]) }
  response := ⟨some 200, some .null, .ofList [("Content-Type", "text/html")]⟩

theorem state_json_faithful_mixedState :
    (∀ m ∈ mixedState.nodes, m.FieldsApart) ∧
      State.ofJson? mixedState.toJson = some (mixedState.mapResponse Response.withoutNullBody) ∧
      (mixedState.mapResponse Response.withoutNullBody).response.body = none := by
  have hapart : ∀ m ∈ mixedState.nodes, m.FieldsApart := by decide +kernel
  exact ⟨hapart, state_json_faithful mixedState hapart, rfl⟩

end Pipeline

end PagePress
