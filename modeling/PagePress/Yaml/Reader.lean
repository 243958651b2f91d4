import PagePress.Decimal.Text
import PagePress.Json.Basic
import PagePress.Yaml.Node

/-!
# Reading YAML as JSON

* `plainValue?` is the value of a scalar without quotes and tag: null, a boolean, a number or
  text;
* `Node.json?` is the value of a node; mappings become objects, whose keys are texts;
* `read?` is the value of a text that holds one document.
-/

namespace PagePress

namespace Yaml

/-! ## Scalars -/

/-- Whether a text stands for null. -/
def isNull (s : String) : Bool := s = "null" || s = "Null" || s = "NULL" || s = "~"

/-- The truth value that a text stands for. -/
def bool? (s : String) : Option Bool :=
  if s = "true" ∨ s = "True" ∨ s = "TRUE" then some true
  else if s = "false" ∨ s = "False" ∨ s = "FALSE" then some false
  else none

/-- A text without a sign. -/
def dropSign : List Char → List Char
  | '-' :: cs | '+' :: cs => cs
  | cs => cs

/-- Digits that start with a zero that adds nothing are no number. -/
def isPaddedDigits (cs : List Char) : Bool :=
  match dropSign cs with
  | '0' :: d :: rest => (d :: rest).all Char.isDigit
  | _ => false

/-- The base that a mark gives, and the digits behind the mark. -/
def based? : List Char → Option (Nat × List Char)
  | '0' :: 'x' :: cs => some (16, cs)
  | '0' :: 'o' :: cs => some (8, cs)
  | '0' :: 'b' :: cs => some (2, cs)
  | _ => none

/-- The value of digits behind a mark of their base. -/
def basedNumber? (cs : List Char) : Option Nat := do
  let (base, digits) ← based? cs
  Numeral.read? base digits

/-- The integer that a text stands for. -/
def integer? (cs : List Char) : Option Int :=
  let magnitude? (digits : List Char) : Option Nat :=
    (basedNumber? digits).or (if isPaddedDigits cs then none else Numeral.read? 10 digits)
  match cs with
  | '-' :: rest => (magnitude? rest).map fun n => -(n : Int)
  | '+' :: rest => (magnitude? rest).map Int.ofNat
  | _ => (magnitude? cs).map Int.ofNat

/-- Texts for infinity and for what is no number. -/
def isUnbounded (cs : List Char) : Bool :=
  let s := String.ofList (dropSign cs)
  (s = ".inf" || s = ".Inf" || s = ".INF")
    || ([".nan", ".NaN", ".NAN"].contains (String.ofList cs))

/-- The other number that a text stands for; one that is not finite becomes null. -/
def float? (cs : List Char) : Option Json :=
  if isUnbounded cs then some .null
  else
    match cs with
    | '+' :: '-' :: _ | '+' :: '+' :: _ => none
    | _ => match Binary64.ofText? cs with
      | some x => if x.isFinite then some (.float x) else none
      | none => none

/-- What an integer of any size becomes. -/
inductive Sized where
  /-- It is kept as it is. -/
  | kept
  /-- It is too large for a value. -/
  | refused
  /-- It counts as another number. -/
  | approximate
deriving DecidableEq, Repr

/-- Integers from `-2 ^ 63` below `2 ^ 64` are kept; the others from `-2 ^ 127` below `2 ^ 128`
are refused, and larger ones approximate. -/
def sized (n : Int) : Sized :=
  if -9223372036854775808 ≤ n ∧ n < 18446744073709551616 then .kept
  else if -170141183460469231731687303715884105728 ≤ n ∧
      n < 340282366920938463463374607431768211456 then .refused
  else .approximate

/-- The value of a number that is written out, if the text is one. -/
def numberOr? (cs : List Char) (otherwise : Option Json) : Option Json :=
  let inexact := if isPaddedDigits cs then otherwise else (float? cs).or otherwise
  match integer? cs with
  | some n => match sized n with
    | .kept => some (.int n)
    | .refused => none
    | .approximate => inexact
  | none => inexact

/-- The value of a scalar without quotes and tag. -/
def plainValue? (s : String) : Option Json :=
  if s.isEmpty || isNull s then some .null
  else match bool? s with
    | some b => some (.bool b)
    | none => numberOr? s.toList (some (.str s))

/-- The value of a scalar whose tag names a common type. -/
def taggedValue? (name : String) (s : String) : Option Json :=
  match name with
  | "bool" => (bool? s).map .bool
  | "int" =>
    (integer? s.toList).bind fun n => if sized n = .kept then some (.int n) else none
  | "float" => float? s.toList
  | "null" => if isNull s then some .null else none
  | _ => some (.str s)

/-- The start of the tags of common types. -/
def commonTag : String := "tag:yaml.org,2002:"

/-- Whether a tag is of the document's own making. -/
def isOwnTag (tag : Option String) : Bool := tag.any fun t => t.toList.head? = some '!'

/-- The value of a scalar. -/
def scalarValue? (tag : Option String) (s : String) (plain : Bool) : Option Json :=
  match tag with
  | none => if plain then plainValue? s else some (.str s)
  | some t =>
    if commonTag.toList.isPrefixOf t.toList then
      taggedValue? (String.ofList (t.toList.drop commonTag.length)) s
    else some (.str s)

/-! ## Nodes -/

/-- How deep collections may be nested. -/
def depthLimit : Nat := 128

/-- The text of a key. -/
def Node.key? : Node → Option String
  | .scalar _ s _ => some s
  | _ => none

mutual

/-- The value of a node. -/
def Node.json? (depth : Nat) : Node → Option Json
  | .scalar tag s plain => if isOwnTag tag then none else scalarValue? tag s plain
  | .sequence tag items =>
    if isOwnTag tag || depthLimit ≤ depth then none
    else (itemsJson? (depth + 1) items).map .arr
  | .mapping tag pairs =>
    if isOwnTag tag || depthLimit ≤ depth then none
    else (pairsJson? (depth + 1) pairs).map .mkObj

/-- The values of items. -/
def itemsJson? (depth : Nat) : List Node → Option (List Json)
  | [] => some []
  | n :: ns => do
    let x ← n.json? depth
    let xs ← itemsJson? depth ns
    some (x :: xs)

/-- The values of pairs by their keys. -/
def pairsJson? (depth : Nat) : List (Node × Node) → Option (List (String × Json))
  | [] => some []
  | (k, v) :: ps => do
    let key ← k.key?
    let x ← v.json? depth
    let xs ← pairsJson? depth ps
    some ((key, x) :: xs)

end

/-- The value of a text that holds at most one document. -/
def read? (text : String) : Option Json := do
  match ← content? (← tokens? text) with
  | none => some .null
  | some n => n.json? 0

end Yaml

end PagePress
