import PagePress.Dict
import PagePress.Text.Blank

/-!
# The view tree and its HTML

* `View.Node` is an element or a run of text;
* `Node.html` writes a node: attributes in key order, void elements without an end tag,
  text escaped except directly inside `script` and `style`;
* `Node.textContent` is the text in document order.
-/

namespace PagePress

namespace View

/-! ## Element and attribute classes -/

/-- Elements written without children and without an end tag. -/
def voidTags : List String :=
  ["area", "base", "br", "col", "embed", "hr", "img", "input", "link", "meta", "source", "track",
    "wbr"]

/-- Elements whose own text is written as it is. -/
def rawTextTags : List String := ["script", "style"]

/-- Attributes written without a value when it is empty. -/
def booleanAttributes : List String :=
  ["checked", "disabled", "hidden", "open", "readonly", "required", "selected"]

/-- Whether a tag names a void element. -/
def isVoid (tag : String) : Bool := voidTags.contains tag

/-! ## Nodes -/

/-- A node of the view tree. -/
inductive Node where
  | element (tag : String) (attrs : Dict String) (children : List Node)
  | text (s : String)
deriving Inhabited

namespace Node

mutual

/-- Decides equality of nodes. -/
def decEq : (a b : Node) → Decidable (a = b)
  | element t as cs, element t' as' cs' =>
    if ht : t = t' then
      if ha : as = as' then
        match decEqAll cs cs' with
        | isTrue hc => isTrue (by rw [ht, ha, hc])
        | isFalse hc => isFalse (by intro h; cases h; exact hc rfl)
      else isFalse (by intro h; cases h; exact ha rfl)
    else isFalse (by intro h; cases h; exact ht rfl)
  | text s, text s' => decidable_of_iff (s = s') (by simp)
  | element .., text _ => isFalse (by intro h; cases h)
  | text _, element .. => isFalse (by intro h; cases h)

/-- Decides equality of lists of nodes. -/
def decEqAll : (a b : List Node) → Decidable (a = b)
  | [], [] => isTrue rfl
  | [], _ :: _ => isFalse (by intro h; cases h)
  | _ :: _, [] => isFalse (by intro h; cases h)
  | x :: xs, y :: ys =>
    match decEq x y with
    | isTrue h => match decEqAll xs ys with
      | isTrue h' => isTrue (by rw [h, h'])
      | isFalse h' => isFalse (by intro e; exact h' (List.cons.inj e).2)
    | isFalse h => isFalse (by intro e; exact h (List.cons.inj e).1)

end

instance : DecidableEq Node := decEq

/-- An element without attributes. -/
def plain (tag : String) (children : List Node) : Node := element tag .empty children

/-- Whether the node is an element. -/
def isElement : Node → Bool
  | element .. => true
  | text _ => false

/-- The tag of an element. -/
def tag? : Node → Option String
  | element t _ _ => some t
  | text _ => none

/-- The children of an element; a text has none. -/
def children : Node → List Node
  | element _ _ cs => cs
  | text _ => []

/-- The value of an attribute of an element. -/
def attr? : Node → String → Option String
  | element _ as _, k => as.get? k
  | text _, _ => none

/-- Whether the node is a text of blanks only. -/
def isBlank : Node → Bool
  | element .. => false
  | text s => Text.allBlank s

end Node

/-! ## Escaping -/

/-- A character of a text in HTML. -/
def escapeTextChar : Char → List Char
  | '&' => "&amp;".toList
  | '<' => "&lt;".toList
  | '>' => "&gt;".toList
  | c => [c]

/-- A character of an attribute value in HTML. -/
def escapeAttrChar : Char → List Char
  | '"' => "&quot;".toList
  | c => escapeTextChar c

/-- A text in HTML. -/
def escapeText (s : String) : List Char := s.toList.flatMap escapeTextChar

/-- An attribute value in HTML. -/
def escapeAttr (s : String) : List Char := s.toList.flatMap escapeAttrChar

/-- A text in HTML, as a string. -/
def escapeHtml (s : String) : String := String.ofList (escapeText s)

/-! ## Writing -/

/-- One attribute: its name alone if it is a boolean attribute with an empty value. -/
def attrHtml (name value : String) : List Char :=
  if value.isEmpty && booleanAttributes.contains name then ' ' :: name.toList
  else ' ' :: name.toList ++ '=' :: '"' :: escapeAttr value ++ ['"']

/-- The attributes in key order. -/
def attrsHtml (as : Dict String) : List Char := as.entries.flatMap fun e => attrHtml e.1 e.2

/-- The start tag of an element. -/
def startTagHtml (tag : String) (as : Dict String) : List Char :=
  '<' :: tag.toList ++ attrsHtml as ++ ['>']

/-- The end tag of an element. -/
def endTagHtml (tag : String) : List Char := '<' :: '/' :: tag.toList ++ ['>']

namespace Node

mutual

/-- The HTML of a node. -/
def html : Node → List Char
  | element t as cs =>
    if isVoid t then startTagHtml t as
    else if rawTextTags.contains t then startTagHtml t as ++ htmlRaw cs ++ endTagHtml t
    else startTagHtml t as ++ htmlAll cs ++ endTagHtml t
  | text s => escapeText s

/-- The HTML of a list of nodes. -/
def htmlAll : List Node → List Char
  | [] => []
  | n :: ns => html n ++ htmlAll ns

/-- The HTML of a list of nodes whose own texts are written as they are. -/
def htmlRaw : List Node → List Char
  | [] => []
  | text s :: ns => s.toList ++ htmlRaw ns
  | element t as cs :: ns => html (element t as cs) ++ htmlRaw ns

end

/-- The HTML of a node including its own tag. -/
def outerHtml (n : Node) : String := String.ofList n.html

/-- The HTML of the children. -/
def innerHtml (n : Node) : String := String.ofList (htmlAll n.children)

mutual

/-- The text of a node and its descendants in document order. -/
def textContent : Node → String
  | element _ _ cs => textContentAll cs
  | text s => s

/-- The text of a list of nodes and their descendants. -/
def textContentAll : List Node → String
  | [] => ""
  | n :: ns => textContent n ++ textContentAll ns

end

end Node

end View

end PagePress
