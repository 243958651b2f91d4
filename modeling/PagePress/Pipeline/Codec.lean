import PagePress.Mdast.Codec
import PagePress.Pipeline.State
import PagePress.View.Codec

/-!
# The state as JSON

Absent values and empty lists are not written; the parameters, the content and the headers
always are.
-/

namespace PagePress

namespace Pipeline

/-! ## Entries -/

/-- The entry of a value, if there is one. -/
def fieldOf (k : String) (v : Option Json) : List (String × Json) :=
  (v.map fun j => (k, j)).toList

/-- The entry of a text, if there is one. -/
def textFieldOf (k : String) (v : Option String) : List (String × Json) := fieldOf k (v.map .str)

/-- The entry of a list, unless it is empty. -/
def listFieldOf (k : String) : List Json → List (String × Json)
  | [] => []
  | js => [(k, .arr js)]

/-! ## Requests -/

/-- Writes a parameter. -/
def Param.toJson : Param → Json
  | .single s => .str s
  | .multiple ss => .ofStrings ss

/-- Reads a parameter. -/
def Param.ofJson? : Json → Option Param
  | .str s => some (.single s)
  | j => j.strings?.map .multiple

/-- Writes a request. -/
def Request.toJson (r : Request) : Json :=
  .mkObj [("params", .ofDict (r.params.mapValues Param.toJson))]

/-- Reads a request. -/
def Request.ofJson? (j : Json) : Option Request := do
  let r ← j.record? ["params"]
  let params ← r.defaulted? 0 "params" .empty (Json.dictOf? Param.ofJson?)
  some ⟨params⟩

/-! ## Content -/

/-- Writes a section. -/
def Section.toJson (s : Section) : Json :=
  .mkObj (
    listFieldOf "types" (s.types.map .str)
      ++ listFieldOf "children" (Mdast.Node.listToJson s.children)
      ++ fieldOf "position" (s.position.map Mdast.Position.toJson)
      ++ fieldOf "meta" (s.metadata.map .ofDict)
      ++ textFieldOf "title" s.title
      ++ textFieldOf "intro" s.intro
      ++ textFieldOf "image" s.image)

/-- The fields of a section in order. -/
def Section.names : List String :=
  ["types", "children", "position", "meta", "title", "intro", "image"]

/-- Reads a section. -/
def Section.ofJson? (j : Json) : Option Section := do
  let r ← j.record? Section.names
  let types ← r.defaulted? 0 "types" [] Json.strings?
  let children ← r.defaulted? 1 "children" [] (Json.listOf? Mdast.Node.ofJson?)
  let position ← r.optional? 2 "position" Mdast.Position.ofJson?
  let metadata ← r.optional? 3 "meta" Json.object?
  let title ← r.optional? 4 "title" Json.str?
  let intro ← r.optional? 5 "intro" Json.str?
  let image ← r.optional? 6 "image" Json.str?
  some ⟨types, children, position, metadata, title, intro, image⟩

/-- Writes content. -/
def Content.toJson (c : Content) : Json :=
  .mkObj (
    listFieldOf "sources" (c.sources.map .str)
      ++ textFieldOf "body" c.body
      ++ fieldOf "mdast" (c.mdast.map Mdast.Node.toJson)
      ++ listFieldOf "sections" (c.sections.map Section.toJson)
      ++ fieldOf "document" (c.document.map View.Node.toJson)
      ++ textFieldOf "html" c.html
      ++ listFieldOf "children" (c.children.map .str)
      ++ fieldOf "meta" (c.metadata.map .ofDict)
      ++ textFieldOf "title" c.title
      ++ textFieldOf "intro" c.intro
      ++ textFieldOf "image" c.image)

/-- The fields of content in order. -/
def Content.names : List String :=
  ["sources", "body", "mdast", "sections", "document", "html", "children", "meta", "title",
    "intro", "image"]

/-- Reads content. -/
def Content.ofJson? (j : Json) : Option Content := do
  let r ← j.record? Content.names
  let sources ← r.defaulted? 0 "sources" [] Json.strings?
  let body ← r.optional? 1 "body" Json.str?
  let mdast ← r.optional? 2 "mdast" Mdast.Node.ofJson?
  let sections ← r.defaulted? 3 "sections" [] (Json.listOf? Section.ofJson?)
  let document ← r.optional? 4 "document" View.Node.ofJson?
  let html ← r.optional? 5 "html" Json.str?
  let children ← r.defaulted? 6 "children" [] Json.strings?
  let metadata ← r.optional? 7 "meta" Json.object?
  let title ← r.optional? 8 "title" Json.str?
  let intro ← r.optional? 9 "intro" Json.str?
  let image ← r.optional? 10 "image" Json.str?
  some ⟨sources, body, mdast, sections, document, html, children, metadata, title, intro, image⟩

/-! ## Responses and states -/

/-- Writes a response. -/
def Response.toJson (r : Response) : Json :=
  .mkObj (
    fieldOf "status" (r.status.map fun n => .ofNat n.toNat)
      ++ fieldOf "body" r.body
      ++ [("headers", .ofTexts r.headers)])

/-- Reads a response. -/
def Response.ofJson? (j : Json) : Option Response := do
  let r ← j.record? ["status", "body", "headers"]
  let status ← r.optional? 0 "status" Json.short?
  let body ← r.optional? 1 "body" some
  let headers ← r.defaulted? 2 "headers" .empty Json.texts?
  some ⟨status, body, headers⟩

/-- Writes a state. -/
def State.toJson (s : State) : Json :=
  .mkObj (
    textFieldOf "error" s.error
      ++ [("request", s.request.toJson), ("content", s.content.toJson),
        ("response", s.response.toJson)])

/-- Reads a state. -/
def State.ofJson? (j : Json) : Option State := do
  let r ← j.record? ["error", "request", "content", "response"]
  let error ← r.optional? 0 "error" Json.str?
  let request ← r.defaulted? 1 "request" .empty Request.ofJson?
  let content ← r.defaulted? 2 "content" .empty Content.ofJson?
  let response ← r.defaulted? 3 "response" .empty Response.ofJson?
  some ⟨error, request, content, response⟩

end Pipeline

end PagePress
