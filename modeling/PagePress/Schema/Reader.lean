import PagePress.Regex.Reader
import PagePress.Schema.Rules

/-!
# Reading schemas

* `Schema.ofJson?` reads a schema, keyword by keyword in the order of their names, and gives
  nothing for a value that is no schema;
* `Document.ofJson?` reads a schema with all the schemas that its references point to;
* `Document.rule` is the rule of a document.
-/

namespace PagePress

namespace Schema

/-! ## Dialects -/

/-- The dialect of a schema. -/
inductive Dialect where
  | draft4
  | draft6
  | draft7
  | draft2019
  | draft2020
deriving DecidableEq, Repr

/-- Whether a reference stands for itself alone. -/
def Dialect.refsAlone : Dialect → Bool
  | .draft4 | .draft6 | .draft7 => true
  | .draft2019 | .draft2020 => false

/-- The address of a dialect without the mark at its end. -/
def Dialect.ofAddress? : String → Option Dialect
  | "http://json-schema.org/draft-04/schema" => some .draft4
  | "http://json-schema.org/draft-06/schema" => some .draft6
  | "http://json-schema.org/draft-07/schema" => some .draft7
  | "https://json-schema.org/draft/2019-09/schema" => some .draft2019
  | "https://json-schema.org/draft/2020-12/schema" => some .draft2020
  | _ => none

/-- The dialect that a schema names; without one it is the latest. -/
def Dialect.ofSchema? (j : Json) : Option Dialect :=
  match j.getStr? "$schema" with
  | none => some .draft2020
  | some s => ofAddress? (String.ofList (s.toList.reverse.dropWhile (· = '#')).reverse)

/-! ## Values of keywords -/

/-- A count, which may be written as a whole number with a point. -/
def count? (j : Json) : Option Nat := do
  let q ← j.quotient?
  if q.isWhole && 0 ≤ q.num then some (q.num / q.den).toNat else none

/-- A number. -/
def numeric? (j : Json) : Option Json := j.quotient?.map fun _ => j

/-- A positive number. -/
def divisor? (j : Json) : Option Json := do
  let q ← j.quotient?
  if 0 < q.num then some j else none

/-- Names, none of them twice. -/
def names? (j : Json) : Option (List String) := do
  let ns ← match j with
    | .arr xs => xs.mapM Json.str?
    | _ => none
  if ns.eraseDups.length = ns.length then some ns else none

/-- A kind, or several different ones. -/
def kinds? : Json → Option (List Kind)
  | .str s => (Kind.ofName? s).map fun k => [k]
  | j => do
    let ns ← names? j
    if ns.isEmpty then none else ns.mapM Kind.ofName?

/-- An expression. -/
def pattern? (s : String) : Option Pattern := (Regex.read? s).map fun r => ⟨s, r⟩

/-! ## Schemas -/

/-- Reads the values of an object, each the same way. -/
def namedOf? {α β : Type} (key : String → Option α) (read : Json → Option β) :
    Json → Option (List (α × β))
  | .obj fs => fs.mapM fun f => do
    let k ← key f.1
    let v ← read f.2
    some (k, v)
  | _ => none

/-- Reads the items of a list, each the same way. -/
def itemsOf? {β : Type} (read : Json → Option β) : Json → Option (List β)
  | .arr xs => xs.mapM read
  | _ => none

/-- Reads the items of a list that is not empty. -/
def someOf? {β : Type} (read : Json → Option β) (j : Json) : Option (List β) := do
  let xs ← itemsOf? read j
  if xs.isEmpty then none else some xs

/-- The properties by name and by pattern that a schema tells apart from all others. -/
def siblings? (read : Json → Option Schema) (fs : List (String × Json)) :
    Option (List (String × Schema) × List (Pattern × Schema)) := do
  let named ← namedOf? some read ((Entries.get? "properties" fs).getD (.obj []))
  let matched ← namedOf? pattern? read ((Entries.get? "patternProperties" fs).getD (.obj []))
  some (named, matched)

/-- Whether a schema tells its properties apart from all others. -/
def closesProperties (fs : List (String × Json)) : Bool :=
  match Entries.get? "additionalProperties" fs with
  | some (.bool false) | some (.obj _) => true
  | _ => false

/-- The keyword of a field, if it asks anything; `none` for a field that is malformed. -/
def keyword? (d : Dialect) (read : Json → Option Schema) (fs : List (String × Json))
    (k : String) (v : Json) : Option (List Keyword) :=
  let one {α : Type} (make : α → Keyword) (value : Option α) : Option (List Keyword) :=
    value.map fun x => [make x]
  match k with
  | "$ref" => one .ref v.str?
  | "additionalProperties" => do
    let (named, matched) ← siblings? read fs
    match v with
    | .bool true => some []
    | .bool false =>
      if (Entries.get? "properties" fs).isNone && (Entries.get? "patternProperties" fs).isNone then
        some [.noProperties]
      else some [.noOthers named matched]
    | _ => one (.others named matched) (read v)
  | "allOf" => one .allOf (someOf? read v)
  | "anyOf" => one .anyOf (someOf? read v)
  | "oneOf" => one .oneOf (someOf? read v)
  | "not" => one (.not v) (read v)
  | "if" => do
    let test ← read v
    let whenFit ← read ((Entries.get? "then" fs).getD (.bool true))
    let otherwise ← read ((Entries.get? "else" fs).getD (.bool true))
    some [.cond test whenFit otherwise]
  | "then" | "else" => (read v).map fun _ => []
  | "const" => if d = .draft4 then some [] else some [.const v]
  | "enum" => one .enum v.items?
  | "type" => one .type (kinds? v)
  | "minimum" => one .minimum (numeric? v)
  | "maximum" => one .maximum (numeric? v)
  | "exclusiveMinimum" =>
    if d = .draft4 then v.bool?.map fun _ => [] else one .exclusiveMinimum (numeric? v)
  | "exclusiveMaximum" =>
    if d = .draft4 then v.bool?.map fun _ => [] else one .exclusiveMaximum (numeric? v)
  | "multipleOf" => one .multipleOf (divisor? v)
  | "minLength" => one .minLength (count? v)
  | "maxLength" => one .maxLength (count? v)
  | "pattern" => one .pattern (v.str?.bind pattern?)
  | "minItems" => one .minItems (count? v)
  | "maxItems" => one .maxItems (count? v)
  | "uniqueItems" => v.bool?.map fun b => if b then [.uniqueItems] else []
  | "items" =>
    match v with
    | .arr _ => if d = .draft2020 then none else one .firstItems (itemsOf? read v)
    | _ =>
      let start := match Entries.get? "prefixItems" fs with
        | some (.arr xs) => if d = .draft2020 then xs.length else 0
        | _ => 0
      one (.items start) (read v)
  | "additionalItems" =>
    match Entries.get? "items" fs with
    | some (.arr xs) => if d = .draft2020 then some [] else one (.items xs.length) (read v)
    | _ => some []
  | "prefixItems" => if d = .draft2020 then one .firstItems (someOf? read v) else some []
  | "contains" => do
    if d = .draft4 then return []
    let s ← read v
    let least ← match Entries.get? "minContains" fs with
      | some n => count? n
      | none => some 1
    let most ← match Entries.get? "maxContains" fs with
      | some n => (count? n).map some
      | none => some none
    if d.refsAlone then some [.contains s 1 none] else some [.contains s least most]
  | "minProperties" => one .minProperties (count? v)
  | "maxProperties" => one .maxProperties (count? v)
  | "required" => one .required (names? v)
  | "properties" =>
    if closesProperties fs then some [] else one .properties (namedOf? some read v)
  | "patternProperties" =>
    if closesProperties fs then some [] else one .patternProperties (namedOf? pattern? read v)
  | "propertyNames" => if d = .draft4 then some [] else one .propertyNames (read v)
  | "dependentRequired" =>
    if d.refsAlone then some [] else one .dependentRequired (namedOf? some names? v)
  | "dependentSchemas" =>
    if d.refsAlone then some [] else one .dependentSchemas (namedOf? some read v)
  | "$defs" | "definitions" => (namedOf? some read v).map fun _ => []
  | "title" | "description" | "$id" | "$schema" | "$comment" | "format" => v.str?.map fun _ => []
  | _ => some []

/-- Reads a schema of at most the given depth. -/
def ofJson? (d : Dialect) : Nat → Json → Option Schema
  | 0, _ => none
  | _ + 1, .bool b => some (.always b)
  | n + 1, .obj fs =>
    match Entries.get? "$ref" fs with
    | some (.str t) =>
      if d.refsAlone then some (.all [.ref t])
      else (fs.mapM fun f => keyword? d (ofJson? d n) fs f.1 f.2).map fun ks => .all ks.flatten
    | _ => (fs.mapM fun f => keyword? d (ofJson? d n) fs f.1 f.2).map fun ks => .all ks.flatten
  | _ + 1, _ => none

/-! ## Documents -/

mutual

/-- How deep a value is nested. -/
def depth : Json → Nat
  | .arr xs => depthItems xs + 1
  | .obj fs => depthFields fs + 1
  | _ => 1

/-- How deep the deepest item is nested. -/
def depthItems : List Json → Nat
  | [] => 0
  | x :: xs => max (depth x) (depthItems xs)

/-- How deep the deepest field is nested. -/
def depthFields : List (String × Json) → Nat
  | [] => 0
  | (_, x) :: xs => max (depth x) (depthFields xs)

end

mutual

/-- The texts under `$ref` anywhere in a value. -/
def targets : Json → List String
  | .arr xs => targetsOfItems xs
  | .obj fs => targetsOfFields fs
  | _ => []

/-- The targets in the items of a list. -/
def targetsOfItems : List Json → List String
  | [] => []
  | x :: xs => targets x ++ targetsOfItems xs

/-- The targets in the fields of an object. -/
def targetsOfFields : List (String × Json) → List String
  | [] => []
  | ("$ref", .str s) :: fs => s :: targetsOfFields fs
  | (_, x) :: fs => targets x ++ targetsOfFields fs

end

/-- A name as it is written in a pointer. -/
def unescapeName : List Char → List Char
  | '~' :: '0' :: cs => '~' :: unescapeName cs
  | '~' :: '1' :: cs => '/' :: unescapeName cs
  | c :: cs => c :: unescapeName cs
  | [] => []

/-- Follows names into a value. -/
def follow? (j : Json) : List String → Option Json
  | [] => some j
  | s :: rest =>
    match j with
    | .obj fs => match Entries.get? s fs with
      | some v => follow? v rest
      | none => none
    | .arr xs => match s.toNat?.bind fun i => xs[i]? with
      | some v => follow? v rest
      | none => none
    | _ => none

/-- The value that a reference within a document points to. -/
def target? (root : Json) (reference : String) : Option Json := do
  let own := (root.getStr? "$id").getD ""
  let rest := if own.toList.isPrefixOf reference.toList then reference.toList.drop own.length
    else reference.toList
  match rest with
  | [] | ['#'] => some root
  | '#' :: '/' :: cs =>
    follow? root (((String.ofList cs).splitOn "/").map fun s =>
      String.ofList (unescapeName s.toList))
  | _ => none

/-- A schema and the schemas that its references point to. -/
structure Document where
  root : Schema
  targets : List (String × Schema)
  /-- How often a reference may lead to a reference. -/
  reach : Nat

/-- Reads a document. -/
def Document.ofJson? (j : Json) : Option Document := do
  let d ← Dialect.ofSchema? j
  let deep := depth j + 1
  let root ← Schema.ofJson? d deep j
  let refs := (Schema.targets j).eraseDups
  let found ← refs.mapM fun t => do
    let v ← target? j t
    let s ← Schema.ofJson? d deep v
    some (t, s)
  some ⟨root, found, refs.length + 1⟩

/-- The rule behind a reference, if it is reached within the given number of references. -/
def Document.targetRule (doc : Document) : Nat → String → Rule
  | 0, _ => fun _ _ => []
  | n + 1, t =>
    match Entries.get? t doc.targets with
    | some s => rule (doc.targetRule n) s
    | none => fun _ _ => []

/-- The rule of a document. -/
def Document.rule (doc : Document) : Rule := fun p j =>
  Schema.rule (doc.targetRule (doc.reach * (depth j + 1))) doc.root p j

end Schema

end PagePress
