import PagePress.Text.Case

/-!
# References to variables

* `expand` replaces the references to variables in a value that has one between braces.  In
  such a value a name behind the mark is a reference too, and a doubled mark stands for itself.
-/

namespace PagePress

namespace Config

/-- The variables of the environment. -/
abbrev Environment := String → Option String

/-- A character of the name of a variable. -/
def isNameChar (c : Char) : Bool := Text.isAlphanumeric c || c = '_'

/-- The text up to a closing brace and what follows the brace. -/
def untilBrace? : List Char → Option (List Char × List Char)
  | [] => none
  | c :: cs =>
    if c = '\x7d' then some ([], cs)
    else (untilBrace? cs).map fun (x : List Char × List Char) => (c :: x.1, x.2)

/-- A text in two at the first mark of a default. -/
def splitDefault : List Char → Option (List Char × List Char)
  | ':' :: '-' :: cs => some ([], cs)
  | c :: cs => (splitDefault cs).map fun (x : List Char × List Char) => (c :: x.1, x.2)
  | [] => none

/-- The name and the default of a reference between braces.  A default needs a name. -/
def braced (cs : List Char) : String × Option (List Char) :=
  match splitDefault cs with
  | some (c :: name, rest) => (String.ofList (c :: name), some rest)
  | _ => (String.ofList cs, none)

/-- The value of a reference, or its default; otherwise the name of the variable. -/
def resolve (env : Environment) (name : String) (fallback : Option (List Char)) :
    Except String (List Char) :=
  match env name, fallback with
  | some v, _ => .ok v.toList
  | none, some d => .ok d
  | none, none => .error name

/-- Replaces every reference.  `fuel` bounds the number of steps. -/
def expandFrom (env : Environment) : Nat → List Char → Except String (List Char)
  | 0, cs => .ok cs
  | _ + 1, [] => .ok []
  | n + 1, '$' :: '\x7b' :: cs => do
    match untilBrace? cs with
    | none => return '$' :: '\x7b' :: (← expandFrom env n cs)
    | some (inside, after) =>
      let (name, fallback) := braced inside
      let value ← resolve env name fallback
      return value ++ (← expandFrom env n after)
  | n + 1, '$' :: '$' :: cs => do return '$' :: (← expandFrom env n cs)
  | n + 1, '$' :: cs => do
    let name := cs.takeWhile isNameChar
    if name.isEmpty then return '$' :: (← expandFrom env n cs)
    let value ← resolve env (String.ofList name) none
    return value ++ (← expandFrom env n (cs.drop name.length))
  | n + 1, c :: cs => do return c :: (← expandFrom env n cs)

/-- Whether a value has a reference between braces. -/
def hasReference : List Char → Bool
  | '$' :: '\x7b' :: _ => true
  | _ :: cs => hasReference cs
  | [] => false

/-- A value with its references replaced, or the name of a variable that is not set. -/
def expand (env : Environment) (value : String) : Except String String :=
  if hasReference value.toList then
    (expandFrom env (value.length + 1) value.toList).map String.ofList
  else .ok value

/-- The names that references in a text could have, and possibly some more. -/
def mentioned : List Char → List String
  | [] => []
  | c :: cs =>
    if c = '$' then
      (match cs with
        | '\x7b' :: inside => (untilBrace? inside).toList.map fun x => (braced x.1).1
        | _ => [String.ofList (cs.takeWhile isNameChar)]) ++ mentioned cs
    else mentioned cs

end Config

end PagePress
