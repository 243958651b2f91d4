import PagePress.Json.Basic
import PagePress.Regex.Basic

/-!
# Schemas

A schema says which JSON values are valid.

* `Kind` is a kind of JSON value;
* `Schema` is a schema, a list of keywords each of which asks something of a value.
-/

namespace PagePress

namespace Schema

/-- A kind of JSON value. -/
inductive Kind where
  | array
  | boolean
  | integer
  | null
  | number
  | object
  | string
deriving DecidableEq, Repr

namespace Kind

/-- All kinds by name. -/
def all : List Kind := [array, boolean, integer, null, number, object, string]

/-- The name of a kind. -/
def name : Kind → String
  | array => "array"
  | boolean => "boolean"
  | integer => "integer"
  | null => "null"
  | number => "number"
  | object => "object"
  | string => "string"

/-- The kind of a name. -/
def ofName? (s : String) : Option Kind := all.find? fun k => k.name == s

end Kind

/-- An expression and how it is written. -/
structure Pattern where
  text : String
  regex : Regex
deriving DecidableEq

end Schema

mutual

/-- A schema. -/
inductive Schema where
  /-- A schema that any value fits, or none. -/
  | always (valid : Bool)
  | all (keywords : List Schema.Keyword)

/-- Something that a schema asks of a value. -/
inductive Schema.Keyword where
  /-- Another schema of the document has to be fit. -/
  | ref (target : String)
  | type (kinds : List Schema.Kind)
  | enum (options : List Json)
  | const (value : Json)
  | minimum (limit : Json)
  | maximum (limit : Json)
  | exclusiveMinimum (limit : Json)
  | exclusiveMaximum (limit : Json)
  | multipleOf (divisor : Json)
  | minLength (limit : Nat)
  | maxLength (limit : Nat)
  | pattern (p : Schema.Pattern)
  | minItems (limit : Nat)
  | maxItems (limit : Nat)
  | uniqueItems
  /-- The items from a place on. -/
  | items (start : Nat) (schema : Schema)
  /-- The first items, one by one. -/
  | firstItems (schemas : List Schema)
  /-- How many items fit a schema. -/
  | contains (schema : Schema) (least : Nat) (most : Option Nat)
  | minProperties (limit : Nat)
  | maxProperties (limit : Nat)
  | required (names : List String)
  | properties (named : List (String × Schema))
  | patternProperties (matched : List (Schema.Pattern × Schema))
  /-- Properties by name and by pattern, and a schema for all others. -/
  | others (named : List (String × Schema)) (matched : List (Schema.Pattern × Schema))
      (schema : Schema)
  /-- Properties by name and by pattern, and no others. -/
  | noOthers (named : List (String × Schema)) (matched : List (Schema.Pattern × Schema))
  /-- No properties at all. -/
  | noProperties
  | propertyNames (schema : Schema)
  | dependentRequired (names : List (String × List String))
  | dependentSchemas (named : List (String × Schema))
  | allOf (schemas : List Schema)
  | anyOf (schemas : List Schema)
  | oneOf (schemas : List Schema)
  /-- A schema that must not be fit, and how it is written. -/
  | not (source : Json) (schema : Schema)
  | cond (test whenFit otherwise : Schema)

end

end PagePress
