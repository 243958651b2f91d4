import PagePress.Dict
import PagePress.Decimal.Shortest

/-!
# JSON values

* `Json` is a JSON value; integers are exact, other numbers are double-precision;
* an object is an association list, in ascending key order when it comes from
  `Json.ofDict`, `Json.put` or the reader;
* the accessors give a part of a value or nothing.
-/

namespace PagePress

/-- A JSON value. -/
inductive Json where
  | null
  | bool (b : Bool)
  | int (n : Int)
  | float (x : Binary64)
  | str (s : String)
  | arr (items : List Json)
  | obj (fields : List (String × Json))
deriving Inhabited

namespace Json

/-! ## Decidable equality -/

mutual

/-- Decides equality of values. -/
def decEq : (a b : Json) → Decidable (a = b)
  | .null, .null => isTrue rfl
  | .bool a, .bool b => decidable_of_iff (a = b) (by simp)
  | .int a, .int b => decidable_of_iff (a = b) (by simp)
  | .float a, .float b => decidable_of_iff (a = b) (by simp)
  | .str a, .str b => decidable_of_iff (a = b) (by simp)
  | .arr a, .arr b =>
    match decEqItems a b with
    | isTrue h => isTrue (by rw [h])
    | isFalse h => isFalse (by simpa using h)
  | .obj a, .obj b =>
    match decEqFields a b with
    | isTrue h => isTrue (by rw [h])
    | isFalse h => isFalse (by simpa using h)
  | .null, .bool _ | .null, .int _ | .null, .float _ | .null, .str _ | .null, .arr _
  | .null, .obj _ | .bool _, .null | .bool _, .int _ | .bool _, .float _ | .bool _, .str _
  | .bool _, .arr _ | .bool _, .obj _ | .int _, .null | .int _, .bool _ | .int _, .float _
  | .int _, .str _ | .int _, .arr _ | .int _, .obj _ | .float _, .null | .float _, .bool _
  | .float _, .int _ | .float _, .str _ | .float _, .arr _ | .float _, .obj _ | .str _, .null
  | .str _, .bool _ | .str _, .int _ | .str _, .float _ | .str _, .arr _ | .str _, .obj _
  | .arr _, .null | .arr _, .bool _ | .arr _, .int _ | .arr _, .float _ | .arr _, .str _
  | .arr _, .obj _ | .obj _, .null | .obj _, .bool _ | .obj _, .int _ | .obj _, .float _
  | .obj _, .str _ | .obj _, .arr _ => isFalse (by intro h; cases h)

/-- Decides equality of item lists. -/
def decEqItems : (a b : List Json) → Decidable (a = b)
  | [], [] => isTrue rfl
  | [], _ :: _ => isFalse (by intro h; cases h)
  | _ :: _, [] => isFalse (by intro h; cases h)
  | x :: xs, y :: ys =>
    match decEq x y with
    | isTrue h => match decEqItems xs ys with
      | isTrue h' => isTrue (by rw [h, h'])
      | isFalse h' => isFalse (by intro e; exact h' (List.cons.inj e).2)
    | isFalse h => isFalse (by intro e; exact h (List.cons.inj e).1)

/-- Decides equality of field lists. -/
def decEqFields : (a b : List (String × Json)) → Decidable (a = b)
  | [], [] => isTrue rfl
  | [], _ :: _ => isFalse (by intro h; cases h)
  | _ :: _, [] => isFalse (by intro h; cases h)
  | (k, x) :: xs, (l, y) :: ys =>
    if hk : k = l then
      match decEq x y with
      | isTrue h => match decEqFields xs ys with
        | isTrue h' => isTrue (by rw [hk, h, h'])
        | isFalse h' => isFalse (by intro e; exact h' (List.cons.inj e).2)
      | isFalse h => isFalse (by
          intro e; exact h (Prod.mk.inj (List.cons.inj e).1).2)
    else isFalse (by intro e; exact hk (Prod.mk.inj (List.cons.inj e).1).1)

end

instance : DecidableEq Json := decEq

/-! ## Building objects -/

/-- The object of a dictionary. -/
def ofDict (d : Dict Json) : Json := .obj d.entries

/-- The object of a dictionary of texts. -/
def ofTexts (d : Dict String) : Json := .obj (d.mapValues .str).entries

/-- The object with the given fields, in key order; a later field replaces an earlier one. -/
def mkObj (fields : List (String × Json)) : Json := .ofDict (.ofList fields)

/-- A natural number. -/
def ofNat (n : Nat) : Json := .int n

/-- The list of texts. -/
def ofStrings (xs : List String) : Json := .arr (xs.map .str)

/-- A value or `null`. -/
def orNull : Option Json → Json := fun v => v.getD .null

/-- A text or `null`. -/
def ofText? (s : Option String) : Json := orNull (s.map .str)

/-! ## Parts of values -/

/-- The value of a field of an object. -/
def get? (j : Json) (k : String) : Option Json :=
  match j with
  | .obj fields => Entries.get? k fields
  | _ => none

/-- The value of a field of an object, a `null` field counting as absent. -/
def present? (j : Json) (k : String) : Option Json :=
  match j.get? k with
  | some .null => none
  | v => v

/-- The text of a string. -/
def str? : Json → Option String
  | .str s => some s
  | _ => none

/-- The truth value of a boolean. -/
def bool? : Json → Option Bool
  | .bool b => some b
  | _ => none

/-- The items of a list. -/
def items? : Json → Option (List Json)
  | .arr xs => some xs
  | _ => none

/-- The fields of an object. -/
def fields? : Json → Option (List (String × Json))
  | .obj fs => some fs
  | _ => none

/-- An integer that is not negative. -/
def nat? : Json → Option Nat
  | .int (.ofNat n) => some n
  | _ => none

/-- The text in a field, if it is a text. -/
def getStr? (j : Json) (k : String) : Option String := (j.get? k).bind str?

/-- Whether the value is `null`. -/
def isNull : Json → Bool
  | .null => true
  | _ => false

/-- Stores a field in an object at its place in key order. -/
def put (j : Json) (k : String) (v : Json) : Json :=
  match j with
  | .obj fields => .obj (Entries.put k v fields)
  | other => other

end Json

end PagePress
