import PagePress.Mdast.Node
import PagePress.View.Node

/-!
# The state of a run

`State` is what a run of a pipeline has produced so far: the filtered request, the content in
its stages of processing, the response, and the error that a failed stage left.
-/

namespace PagePress

namespace Pipeline

/-- The value of a request parameter. -/
inductive Param where
  | single (s : String)
  | multiple (ss : List String)
deriving DecidableEq, Repr

/-- The filtered request. -/
structure Request where
  params : Dict Param
deriving DecidableEq

/-- A part of a document between thematic breaks. -/
structure Section where
  /-- Class names that tell what the section holds. -/
  types : List String
  children : List Mdast.Node
  position : Option Mdast.Position
  /-- The front matter of the section. -/
  metadata : Option (Dict Json)
  title : Option String
  intro : Option String
  image : Option String

/-- The content being processed. -/
structure Content where
  /-- Where the content was retrieved. -/
  sources : List String
  /-- The text of the document. -/
  body : Option String
  /-- The markdown tree of the document. -/
  mdast : Option Mdast.Node
  sections : List Section
  /-- The view tree of the document. -/
  document : Option View.Node
  html : Option String
  /-- The HTML of each top-level element. -/
  children : List String
  metadata : Option (Dict Json)
  title : Option String
  intro : Option String
  image : Option String

/-- The response. -/
structure Response where
  status : Option UInt16
  body : Option Json
  headers : Dict String
deriving DecidableEq

/-- What a run has produced so far. -/
structure State where
  /-- The message of a failed stage or check. -/
  error : Option String
  request : Request
  content : Content
  response : Response

/-- No parameters. -/
def Request.empty : Request := ⟨.empty⟩

/-- Nothing is known of the section. -/
def Section.empty : Section := ⟨[], [], none, none, none, none, none⟩

/-- Nothing is retrieved. -/
def Content.empty : Content :=
  ⟨[], none, none, [], none, none, [], none, none, none, none⟩

/-- No response. -/
def Response.empty : Response := ⟨none, none, .empty⟩

namespace Response

/-- Sets a header unless it is set. -/
def defaultHeader (r : Response) (name value : String) : Response :=
  if r.headers.contains name then r else { r with headers := r.headers.insert name value }

/-- Whether the status is that of an error. -/
def isError (r : Response) : Bool := r.status.any (400 ≤ ·)

end Response

namespace State

/-- The state before the first stage. -/
def empty : State := ⟨none, .empty, .empty, .empty⟩

/-- Whether a stage or a check failed. -/
def isFailed (s : State) : Bool := s.error.isSome

/-- Changes the content. -/
def mapContent (s : State) (f : Content → Content) : State := { s with content := f s.content }

/-- Changes the response. -/
def mapResponse (s : State) (f : Response → Response) : State :=
  { s with response := f s.response }

end State

end Pipeline

end PagePress
