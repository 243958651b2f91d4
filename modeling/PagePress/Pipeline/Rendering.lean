import PagePress.Markdown.Reader
import PagePress.Pipeline.Stage
import PagePress.Render.Document

/-!
# From the text of a document to HTML

* `parseMarkdown` reads the markdown tree of the document;
* `makeHtml` renders the tree, `topLevelHtml` being the HTML of each element at its top;
* `emitHtml` uses the HTML as the body of the response.
-/

namespace PagePress

namespace Pipeline

/-- Reads the markdown tree of the document. -/
def parseMarkdown : Stage where
  name := "parse_markdown"
  run _ s :=
    match s.content.body with
    | none => .completed s [⟨.debug, "No body to parse"⟩]
    | some body =>
      let root := Markdown.parse body
      .completed (s.mapContent fun c => { c with mdast := some root })
        [⟨.debug, "Parsed " ++ toString root.children.length ++ " top-level nodes"⟩]

/-- The HTML of each element at the top of a document.  A container without attributes stands
for what it holds. -/
def topLevelHtml : View.Node → List String
  | .text _ => []
  | .element tag attrs children =>
    if tag = Render.containerTag ∧ attrs.isEmpty then
      (children.filter View.Node.isElement).map View.Node.outerHtml
    else [(View.Node.element tag attrs children).outerHtml]

/-- The element that a rendered tree is: a text is put into a container. -/
def asElement (n : View.Node) : View.Node :=
  if n.isElement then n else .plain Render.containerTag [n]

/-- Stores a rendered document. -/
def Content.withDocument (c : Content) (document : View.Node) : Content :=
  { c with
    document := some document
    html := some document.outerHtml
    children := topLevelHtml document }

/-- Renders the markdown tree. -/
def makeHtml (registry : Render.Registry) : Stage where
  name := "make_html"
  run _ s :=
    match s.content.mdast with
    | none => .completed s [⟨.debug, "No mdast, skipping rendering"⟩]
    | some root =>
      match Render.document registry root with
      | .ok n => .completed (s.mapContent fun c => c.withDocument (asElement n)) []
      | .error e => .failed s ⟨e.message, []⟩ []

/-- Uses the HTML as the body of the response, unless there is a body. -/
def emitHtml : Stage :=
  .pure "emit_html" fun _ s =>
    match s.response.body, s.content.html with
    | none, some html => s.mapResponse fun r => { r with body := some (.str html) }
    | _, _ => s

end Pipeline

end PagePress
