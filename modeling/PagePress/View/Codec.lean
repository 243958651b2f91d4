import PagePress.Json.Decode
import PagePress.View.Node

/-!
# The view tree as JSON

A text is a string; an element is an object with its tag, its attributes and its children,
the last two only when there are any.
-/

namespace PagePress

namespace View

namespace Node

/-- The entries of an element. -/
def elementEntries (tag : String) (attrs : Dict String) (children : List Json) :
    List (String × Json) :=
  [("tag", .str tag)]
    ++ (if attrs.isEmpty then [] else [("attrs", .ofTexts attrs)])
    ++ (if children.isEmpty then [] else [("children", .arr children)])

mutual

/-- Writes a node. -/
def toJson : Node → Json
  | element t as cs => .mkObj (elementEntries t as (listToJson cs))
  | text s => .str s

/-- Writes a list of nodes. -/
def listToJson : List Node → List Json
  | [] => []
  | n :: ns => toJson n :: listToJson ns

end

/-- Reads attributes; without them there are none. -/
def attrs? : Option Json → Option (Dict String)
  | none => some .empty
  | some v => v.texts?

mutual

/-- Reads a node. -/
def ofJson? : Json → Option Node
  | .str s => some (text s)
  | .obj es =>
    match (Entries.get? "tag" es).bind Json.str?, attrs? (Entries.get? "attrs" es),
        childrenOf? es with
    | some t, some as, some cs => some (element t as cs)
    | _, _, _ => none
  | .arr [.str t] => some (element t .empty [])
  | .arr [.str t, as] => as.texts?.map fun as => element t as []
  | .arr [.str t, as, .arr cs] =>
    match as.texts?, listOfJson? cs with
    | some as, some cs => some (element t as cs)
    | _, _ => none
  | _ => none

/-- Reads the children among the fields of an object; without such a field there are none. -/
def childrenOf? : List (String × Json) → Option (List Node)
  | [] => some []
  | (k, v) :: rest =>
    if k = "children" then
      match v with
      | .arr xs => listOfJson? xs
      | _ => none
    else childrenOf? rest

/-- Reads a list of nodes. -/
def listOfJson? : List Json → Option (List Node)
  | [] => some []
  | j :: js =>
    match ofJson? j, listOfJson? js with
    | some n, some ns => some (n :: ns)
    | _, _ => none

end

end Node

end View

end PagePress
