import PagePress.Pipeline.Stage

/-!
# From content to a response

* `emitJson` sums up the content in the body of the response;
* `setContentType` names the type of the body;
* `adaptResponse` sets the status, and tells of an error in the body.
-/

namespace PagePress

namespace Pipeline

/-! ## Bodies -/

/-- What a document holds, in short. -/
def Content.summary (c : Content) : Json :=
  .mkObj [
    ("title", Json.ofText? c.title),
    ("intro", Json.ofText? c.intro),
    ("image", Json.ofText? c.image),
    ("meta", Json.orNull (c.metadata.map Json.ofDict)),
    ("html", Json.ofText? c.html),
    ("sections", .ofNat c.sections.length)]

/-- Uses a summary of the content as the body of the response. -/
def emitJson : Stage :=
  .pure "emit_json" fun _ s =>
    s.mapResponse fun r => { r with body := some s.content.summary }

/-! ## Types -/

/-- The header that names the type of the body. -/
def contentTypeHeader : String := "Content-Type"

/-- Names the type of the body, unless it is named. -/
def setContentType (type : String) : Stage :=
  .pure "set_content_type" fun _ s => s.mapResponse fun r => r.defaultHeader contentTypeHeader type

/-! ## Statuses -/

/-- The status of a run without an error that no stage gave one. -/
def successStatus : UInt16 := 200

/-- The status of a run with an error that no stage gave an error status. -/
def failureStatus : UInt16 := 500

/-- The response to an error. -/
def Response.toError (r : Response) (e : String) : Response :=
  { r with
    status := if r.isError then r.status else some failureStatus
    body := some (.mkObj [("error", .str e)]) }

/-- Completes the response. -/
def adaptResponse : Stage where
  name := "adapt_response"
  run _ s :=
    match s.error with
    | none =>
      .completed
        (s.mapResponse fun r => { r with status := some (r.status.getD successStatus) }) []
    | some e =>
      let r := s.response.toError e
      .completed { s with response := r }
        [⟨.debug, "Responding with status Some(" ++ toString (r.status.getD 0).toNat
          ++ ") after error"⟩]

end Pipeline

end PagePress
