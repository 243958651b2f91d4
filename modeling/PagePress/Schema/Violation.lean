import PagePress.Schema.Basic
import PagePress.Schema.Number

/-!
# What is wrong with a value

* `Schema.Violation` is a place in a value and what is wrong there;
* `Schema.Place.pointer` writes the place, and `Violation.text` the whole.
-/

namespace PagePress

namespace Schema

/-- A place in a value: names and numbers of parts, the innermost first. -/
abbrev Place := List String

/-- A name within a pointer. -/
def escapeName (s : String) : String :=
  String.ofList <| s.toList.flatMap fun c =>
    if c = '~' then ['~', '0'] else if c = '/' then ['~', '1'] else [c]

/-- The pointer to a place. -/
def Place.pointer (p : Place) : String :=
  String.join (p.reverse.map fun s => "/" ++ escapeName s)

/-- Something wrong at a place of a value. -/
structure Violation where
  place : Place
  message : String
deriving DecidableEq, Repr

/-- The place and what is wrong there. -/
def Violation.text (v : Violation) : String := v.place.pointer ++ ": " ++ v.message

/-- The violations of a value that stands at a place. -/
abbrev Rule := Place → Json → List Violation

/-- Whether a value fits. -/
def Rule.fits (r : Rule) (j : Json) : Bool := (r [] j).isEmpty

/-- A rule that has a message for a value that does not pass. -/
def Rule.test (passes : Json → Bool) (message : Json → String) : Rule := fun p j =>
  if passes j then [] else [⟨p, message j⟩]

/-! ## Messages -/

/-- A count of things. -/
def counted (n : Nat) (one many : String) : String :=
  toString n ++ " " ++ if n = 1 then one else many

/-- A value and what is wrong with it. -/
def about (rest : String) (j : Json) : String := j.compact ++ " " ++ rest

/-- Names that were not expected. -/
def unexpectedMessage (names : List String) : String :=
  "Additional properties are not allowed (" ++ ", ".intercalate (names.map fun s => "'" ++ s ++ "'")
    ++ (if names.length = 1 then " was" else " were") ++ " unexpected)"

/-- A property that is missing. -/
def requiredMessage (name : String) : String := (Json.str name).compact ++ " is a required property"

/-- A kind of value that is not the expected one. -/
def typeMessage : List Kind → String
  | [k] => "is not of type " ++ (Json.str k.name).compact
  | ks =>
    let expected := Kind.all.filter ks.contains
    "is not of types " ++ ", ".intercalate (expected.map fun k => (Json.str k.name).compact)

end Schema

end PagePress
