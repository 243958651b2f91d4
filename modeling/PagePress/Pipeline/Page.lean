import PagePress.Pipeline.Metadata
import PagePress.Pipeline.Rendering
import PagePress.Pipeline.Reply
import PagePress.Pipeline.Retrieval
import PagePress.Pipeline.Run

/-!
# Pipelines for pages

A page is fetched, read and rendered, then a main stage of the caller's choice makes its
response, in one of two formats.

* `Format` is the format of a response;
* `page` is the pipeline of a format around a main stage;
* `runPage` runs it.
-/

namespace PagePress

namespace Pipeline

/-- The format of a response. -/
inductive Format where
  | json
  | html
deriving DecidableEq, Repr

namespace Format

/-- The format unless another is asked for. -/
def usual : Format := json

/-- The name of a format. -/
def name : Format → String
  | json => "JSON"
  | html => "HTML"

/-- The type of a body of the format. -/
def contentType : Format → String
  | json => "application/json"
  | html => "text/html"

end Format

/-- The stages for a page around a main stage. -/
def page (format : Format) (main : Stage) (source : Fetch.Source) (registry : Render.Registry) :
    Pipeline where
  pre := [adaptRequest, fetchMarkdown source, parseMarkdown, getMetadata, makeHtml registry,
    emitHtml]
  main := some main
  post := [setContentType format.contentType, adaptResponse]

/-- What is logged when a pipeline for pages is made. -/
def constructing (format : Format) : LogEntry :=
  ⟨.debug, "Constructing " ++ format.name ++ " Pipeline"⟩

/-- What is logged when a pipeline for pages is run. -/
def running (format : Format) : LogEntry :=
  ⟨.debug, "Running " ++ format.name ++ " pipeline"⟩

/-- The state that the run for a page ends in. -/
def runPage (format : Format) (main : Stage) (source : Fetch.Source) (check : Check)
    (ctx : Context) : State :=
  (page format main source []).run check ctx

end Pipeline

end PagePress
