import PagePress.Json.Decode
import PagePress.Mdast.Node

/-!
# The markdown tree as JSON

* `Node.toJson` writes the fields that are set, children only when there are any;
* `Node.ofJson?` reads an object with a `type`, keeping every field outside the standard
  set as it is.
-/

namespace PagePress

namespace Mdast

/-! ## Positions -/

/-- Writes a point. -/
def Point.toJson (p : Point) : Json :=
  .mkObj (
    [("line", .ofNat p.line), ("column", .ofNat p.column)]
      ++ (p.offset.map fun n => ("offset", Json.ofNat n)).toList)

/-- Reads a point. -/
def Point.ofJson? (j : Json) : Option Point := do
  let r ← j.record? ["line", "column", "offset"]
  let line ← r.required? 0 "line" Json.nat?
  let column ← r.required? 1 "column" Json.nat?
  let offset ← r.optional? 2 "offset" Json.nat?
  some ⟨line, column, offset⟩

/-- Writes a position. -/
def Position.toJson (p : Position) : Json :=
  .mkObj (
    [("start", p.start.toJson), ("end", p.stop.toJson)]
      ++ (p.indent.map fun ns => ("indent", Json.arr (ns.map Json.ofNat))).toList)

/-- Reads a position. -/
def Position.ofJson? (j : Json) : Option Position := do
  let r ← j.record? ["start", "end", "indent"]
  let start ← r.required? 0 "start" Point.ofJson?
  let stop ← r.required? 1 "end" Point.ofJson?
  let indent ← r.optional? 2 "indent" (Json.listOf? Json.nat?)
  some ⟨start, stop, indent⟩

/-! ## Fields -/

/-- The names of the standard fields besides `type` and `children`. -/
def Fields.names : List String :=
  ["value", "depth", "ordered", "start", "spread", "loose", "checked", "align", "lang", "meta",
    "identifier", "label", "url", "title", "alt", "referenceType", "position"]

/-- The names that an extra field cannot have. -/
def Fields.reserved : List String := "type" :: "children" :: Fields.names

/-- Reads an alignment: its name, or an object with that name and `null`. -/
def Align.ofJson? : Json → Option Align
  | .str s => Align.ofName? s
  | .obj [(s, .null)] => Align.ofName? s
  | _ => none

/-- The standard fields that are set, as JSON entries. -/
def Fields.entries (f : Fields) : List (String × Json) :=
  let text (k : String) (v : Option String) := (v.map fun s => (k, Json.str s)).toList
  let flag (k : String) (v : Option Bool) := (v.map fun b => (k, Json.bool b)).toList
  text "value" f.value
    ++ (f.depth.map fun n => ("depth", Json.ofNat n.toNat)).toList
    ++ flag "ordered" f.ordered
    ++ (f.start.map fun n => ("start", Json.ofNat n)).toList
    ++ flag "spread" f.spread
    ++ flag "loose" f.loose
    ++ flag "checked" f.checked
    ++ (f.align.map fun cols =>
          ("align", Json.arr (cols.map fun c => Json.ofText? (c.map Align.name)))).toList
    ++ text "lang" f.lang
    ++ text "meta" f.info
    ++ text "identifier" f.identifier
    ++ text "label" f.label
    ++ text "url" f.url
    ++ text "title" f.title
    ++ text "alt" f.alt
    ++ text "referenceType" f.referenceType
    ++ (f.position.map fun p => ("position", p.toJson)).toList

/-- Reads the standard fields of an object and keeps the others. -/
def Fields.ofEntries? (es : List (String × Json)) : Option Fields := do
  let r := Json.Record.named es
  let text (k : String) := r.optional? 0 k Json.str?
  let flag (k : String) := r.optional? 0 k Json.bool?
  let value ← text "value"
  let depth ← r.optional? 0 "depth" Json.byte?
  let ordered ← flag "ordered"
  let start ← r.optional? 0 "start" Json.nat?
  let spread ← flag "spread"
  let loose ← flag "loose"
  let checked ← flag "checked"
  let align ← r.optional? 0 "align" (Json.listOf? (Json.nullable? Align.ofJson?))
  let lang ← text "lang"
  let info ← text "meta"
  let identifier ← text "identifier"
  let label ← text "label"
  let url ← text "url"
  let title ← text "title"
  let alt ← text "alt"
  let referenceType ← text "referenceType"
  let position ← r.optional? 0 "position" Position.ofJson?
  let extra := Dict.ofList (es.filter fun e => !Fields.reserved.contains e.1)
  some ⟨value, depth, ordered, start, spread, loose, checked, align, lang, info, identifier,
    label, url, title, alt, referenceType, position, extra⟩

/-! ## Nodes -/

namespace Node

/-- The entry of the children, none when there are none. -/
def childEntry : List Json → List (String × Json)
  | [] => []
  | xs => [("children", .arr xs)]

mutual

/-- Writes a node. -/
def toJson : Node → Json
  | mk t f cs =>
    .mkObj ([("type", .str t)] ++ childEntry (listToJson cs) ++ f.entries ++ f.extra.entries)

/-- Writes a list of nodes. -/
def listToJson : List Node → List Json
  | [] => []
  | n :: ns => toJson n :: listToJson ns

end

mutual

/-- Reads a node. -/
def ofJson? : Json → Option Node
  | .obj es =>
    match (Entries.get? "type" es).bind Json.str?, childrenOf? es, Fields.ofEntries? es with
    | some t, some cs, some f => some (mk t f cs)
    | _, _, _ => none
  | _ => none

/-- Reads the children among the fields of an object; without such a field there are none. -/
def childrenOf? : List (String × Json) → Option (List Node)
  | [] => some []
  | (k, v) :: rest =>
    if k = "children" then
      match v with
      | .arr xs => listOfJson? xs
      | _ => none
    else childrenOf? rest

/-- Reads a list of nodes. -/
def listOfJson? : List Json → Option (List Node)
  | [] => some []
  | j :: js =>
    match ofJson? j, listOfJson? js with
    | some n, some ns => some (n :: ns)
    | _, _ => none

end

end Node

end Mdast

end PagePress
