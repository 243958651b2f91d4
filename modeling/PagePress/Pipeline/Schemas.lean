import PagePress.Mdast.Kind
import PagePress.Schema.Rules

/-!
# The schemas of states and contexts

* `Schemas.state` tells which states are valid, `Schemas.context` which contexts.
-/

namespace PagePress

namespace Pipeline

namespace Schemas

open Schema (Kind Keyword Pattern)

/-! ## Common parts -/

/-- A value of a kind. -/
def typed (k : Kind) : Schema := .all [.type [k]]

/-- A list of texts. -/
def texts : Schema := .all [.items 0 (typed .string), .type [.array]]

/-- An object of texts. -/
def textFields : Schema := .all [.others [] [] (typed .string), .type [.object]]

/-- An object with properties, and possibly others. -/
def record (named : List (String × Schema)) : Schema := .all [.properties named, .type [.object]]

/-- An object with properties, and no others. -/
def closed (named : List (String × Schema)) : Schema :=
  .all [.noOthers named [], .type [.object]]

/-- An integer from a number on. -/
def atLeast (n : Int) : Schema := .all [.minimum (.int n), .type [.integer]]

/-- An integer between two numbers. -/
def between (low high : Int) : Schema :=
  .all [.maximum (.int high), .minimum (.int low), .type [.integer]]

/-- A text or `null`. -/
def textOrNull : Schema := .all [.type [.string, .null]]

/-! ## Documents -/

/-- A position in a document. -/
def point : Schema :=
  record [("column", atLeast 1), ("line", atLeast 1), ("offset", atLeast 0)]

/-- Where a node of a tree stands. -/
def position : Schema :=
  record [("end", point), ("indent", typed .array), ("start", point)]

/-- The type of a node. -/
def nodeType : Schema :=
  .all [.enum (Mdast.Kind.all.map fun k => .str k.name), .type [.string]]

/-- The alignment of the columns of a table. -/
def alignment : Schema :=
  .all [.items 0 (.all [.enum [.str "left", .str "right", .str "center", .null]]), .type [.array]]

/-- A node of a markdown tree. -/
def node : Schema :=
  .all [
    .properties [
      ("align", alignment),
      ("alt", textOrNull),
      ("checked", typed .boolean),
      ("children", .all [.items 0 (typed .object), .type [.array]]),
      ("depth", between 1 6),
      ("identifier", typed .string),
      ("label", typed .string),
      ("lang", typed .string),
      ("loose", typed .boolean),
      ("meta", typed .string),
      ("ordered", typed .boolean),
      ("position", position),
      ("spread", typed .boolean),
      ("start", typed .integer),
      ("title", textOrNull),
      ("type", nodeType),
      ("url", typed .string),
      ("value", typed .string)],
    .required ["type"],
    .type [.object]]

/-- A section of a document. -/
def part : Schema :=
  record [
    ("children", .all [.items 0 node, .type [.array]]),
    ("image", typed .string),
    ("intro", typed .string),
    ("meta", typed .object),
    ("position", position),
    ("title", typed .string),
    ("types", texts)]

/-- The view tree of a document. -/
def view : Schema :=
  .all [
    .properties [
      ("attrs", textFields),
      ("children", typed .array),
      ("tag", typed .string)],
    .required ["tag"],
    .type [.object]]

/-- The content being processed. -/
def content : Schema :=
  closed [
    ("body", typed .string),
    ("children", texts),
    ("document", view),
    ("html", typed .string),
    ("image", typed .string),
    ("intro", typed .string),
    ("mdast", node),
    ("meta", typed .object),
    ("sections", .all [.items 0 part, .type [.array]]),
    ("sources", texts),
    ("title", typed .string)]

/-! ## States and contexts -/

/-- The filtered request. -/
def request : Schema :=
  closed [
    ("params", .all [.others [] [] (.all [.oneOf [typed .string, texts]]), .type [.object]])]

/-- The response. -/
def response : Schema :=
  closed [
    ("body", .all []),
    ("headers", textFields),
    ("status", between 100 599)]

/-- A state. -/
def state : Schema :=
  closed [
    ("content", content),
    ("error", typed .string),
    ("request", request),
    ("response", response)]

/-- The raw parameters of a request. -/
def params : Schema :=
  .all [
    .others [
        ("__ow_headers", typed .object),
        ("owner", typed .string),
        ("path", typed .string),
        ("ref", typed .string),
        ("repo", typed .string)]
      [] (typed .string),
    .type [.object]]

/-- The names of secrets: capital letters, digits and low lines. -/
def secretName : Pattern where
  text := "^[A-Z0-9_]+$"
  regex := .seq (.seq .start (.plus (.chars
    (.union (.union (.union .none (.range 'A' 'Z')) (.range '0' '9')) (.single '_'))))) .stop

/-- Secrets and settings. -/
def secrets : Schema :=
  .all [
    .noOthers [("REPO_RAW_ROOT", typed .string)] [(secretName, typed .string)],
    .type [.object]]

/-- A context. -/
def context : Schema :=
  closed [
    ("logger", typed .object),
    ("request", record [("params", params)]),
    ("secrets", secrets)]

end Schemas

end Pipeline

end PagePress
