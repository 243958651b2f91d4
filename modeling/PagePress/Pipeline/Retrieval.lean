import PagePress.Fetch.Source
import PagePress.Pipeline.Stage

/-!
# From a request to the text of a document

* `adaptRequest` copies the parameters of a request that are not those of the host;
* `fetchMarkdown` reads the document that is asked for.
-/

namespace PagePress

namespace Pipeline

open Fetch (FetchError Location Source)

/-! ## Requests -/

/-- Whether a parameter belongs to the host. -/
def isHostParam (name : String) : Bool := ['_', '_'].isPrefixOf name.toList

/-- The parameters that are passed on, in the order they are stored. -/
def RawParams.passed (p : RawParams) : List (String × String) :=
  let named (k : String) (v : Option String) := (v.map fun s => (k, s)).toList
  named "owner" p.owner ++ named "repo" p.repo ++ named "ref" p.ref ++ named "path" p.path
    ++ p.extra.entries.filter fun e => !isHostParam e.1

/-- Stores a parameter. -/
def Request.set (r : Request) (name value : String) : Request :=
  ⟨r.params.insert name (.single value)⟩

/-- Passes the parameters of the request on. -/
def adaptRequest : Stage :=
  .pure "adapt_request" fun ctx s =>
    { s with request := ctx.params.passed.foldl (fun r e => r.set e.1 e.2) s.request }

/-! ## Documents -/

/-- Sets the status of the response to that of an error. -/
def State.withStatusOf (s : State) (e : FetchError) : State :=
  s.mapResponse fun r => { r with status := some e.status }

/-- Stores a document that was read. -/
def State.withBody (s : State) (uri body : String) : State :=
  s.mapContent fun c => { c with sources := c.sources ++ [uri], body := some body }

/-- Reads the document at a location. -/
def fetchAt (source : Source) (l : Location) (s : State) : Outcome :=
  let uri := source.uri l
  let log : Log := [⟨.debug, "Fetching markdown from " ++ uri⟩]
  match source.read l with
  | .ok body => .completed (s.withBody uri body) log
  | .error e =>
    .failed (s.withStatusOf e) ⟨"Error while fetching markdown from " ++ uri, e.causes⟩ log

/-- Reads the document that the request addresses. -/
def fetchMarkdown (source : Source) : Stage where
  name := "fetch_markdown"
  run ctx s :=
    match Location.ofContext ctx with
    | .ok l => fetchAt source l s
    | .error e => .failed (s.withStatusOf e) ⟨e.message, []⟩ []

end Pipeline

end PagePress
