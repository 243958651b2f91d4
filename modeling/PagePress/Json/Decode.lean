import PagePress.Json.Basic

/-!
# Reading records from JSON

A record is read from an object by field name, or from a list by position.  A missing or
`null` optional field is absent; a missing field with a default takes it.
-/

namespace PagePress

namespace Json

/-- A record given as an object or as a list in declaration order. -/
inductive Record where
  | named (fields : List (String × Json))
  | listed (items : List Json)

/-- An object, or a list of at most as many items as the record has fields. -/
def record? (names : List String) : Json → Option Record
  | .obj fs => some (.named fs)
  | .arr xs => if xs.length ≤ names.length then some (.listed xs) else none
  | _ => none

/-- The value given for the field that stands at place `i` of the declaration. -/
def Record.get? (r : Record) (i : Nat) (k : String) : Option Json :=
  match r with
  | .named fs => Entries.get? k fs
  | .listed xs => xs[i]?

/-- A required field. -/
def Record.required? {α : Type} (r : Record) (i : Nat) (k : String) (read : Json → Option α) :
    Option α :=
  (r.get? i k).bind read

/-- A field that takes a default when it is missing. -/
def Record.defaulted? {α : Type} (r : Record) (i : Nat) (k : String) (default : α)
    (read : Json → Option α) : Option α :=
  match r.get? i k with
  | none => some default
  | some v => read v

/-- An optional field; `null` counts as absent. -/
def Record.optional? {α : Type} (r : Record) (i : Nat) (k : String) (read : Json → Option α) :
    Option (Option α) :=
  match r.get? i k with
  | none => some none
  | some .null => some none
  | some v => (read v).map some

/-- A list of values, each read the same way. -/
def listOf? {α : Type} (read : Json → Option α) : Json → Option (List α)
  | .arr xs => xs.mapM read
  | _ => none

/-- A value or `null`. -/
def nullable? {α : Type} (read : Json → Option α) : Json → Option (Option α)
  | .null => some none
  | v => (read v).map some

/-- A dictionary of values, each read the same way. -/
def dictOf? {α : Type} (read : Json → Option α) : Json → Option (Dict α)
  | .obj fs => (fs.mapM fun e => (read e.2).map fun v => (e.1, v)).map Dict.ofList
  | _ => none

/-- A dictionary of texts. -/
def texts? : Json → Option (Dict String) := dictOf? str?

/-- A dictionary of any values. -/
def object? : Json → Option (Dict Json) := dictOf? some

/-- A list of texts. -/
def strings? : Json → Option (List String) := listOf? str?

/-- An integer from 0 to 255. -/
def byte? (j : Json) : Option UInt8 :=
  match j.nat? with
  | some n => if n < 256 then some n.toUInt8 else none
  | none => none

/-- An integer from 0 to 65535. -/
def short? (j : Json) : Option UInt16 :=
  match j.nat? with
  | some n => if n < 65536 then some n.toUInt16 else none
  | none => none

end Json

end PagePress
