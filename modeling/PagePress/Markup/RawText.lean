import PagePress.Text.Ascii

/-!
# Raw text — escaping what is no markup

A tolerant reader takes every `<` for markup.  Before reading, a `<` that starts no tag,
comment or declaration becomes a reference, and so does every `<` inside an element whose
content is raw text, up to its end tag.

* `markupLength?` measures the markup that starts at a `<`;
* `rawTextName?` says which raw text element a tag opens;
* `escapeStray` rewrites a whole text.
-/

namespace PagePress

namespace Markup

/-- Elements whose content is text up to their end tag. -/
def rawTextNames : List String := ["script", "style", "textarea"]

/-! ## Measuring markup -/

/-- The length of a tag up to and with its `>`, quoted attribute values skipped; none if a
`<` outside quotes or the end of the text comes first. -/
def tagLength? (quote : Option Char) : List Char → Option Nat
  | [] => none
  | c :: rest =>
    match quote with
    | some q => (tagLength? (if c = q then none else some q) rest).map (· + 1)
    | none =>
      if c = '>' then some 1
      else if c = '<' then none
      else (tagLength? (if c = '"' || c = '\'' then some c else none) rest).map (· + 1)

/-- The length up to and with the first `>`. -/
def throughClose? (cs : List Char) : Option Nat := (Text.find? ['>'] cs).map (· + 1)

/-- The length of the tag, comment or declaration that a `<` followed by these characters
starts, the `<` not counted. -/
def markupLength? (cs : List Char) : Option Nat :=
  match cs with
  | '/' :: c :: _ => if c.isAlpha then tagLength? none cs else none
  | '!' :: '-' :: '-' :: _ => (Text.find? ['-', '-', '>'] cs).map (· + 3)
  | '!' :: _ => throughClose? cs
  | '?' :: _ => throughClose? cs
  | c :: _ => if c.isAlpha then tagLength? none cs else none
  | [] => none

/-! ## Raw text elements -/

/-- The raw text element that a tag opens; `tag` is everything after its `<`. -/
def rawTextName? (tag : List Char) : Option String :=
  if tag.head? = some '/' || ['>', '/'].isPrefixOf tag.reverse then none
  else
    let name := String.ofList (Text.lower (tag.takeWhile Text.isAlnum))
    rawTextNames.find? (· == name)

/-- Whether the end tag of a raw text element starts here. -/
def endsRawText (name : String) (cs : List Char) : Bool :=
  let needle := '<' :: '/' :: name.toList
  Text.startsWithLower needle cs
    && match cs.drop needle.length with
      | [] => true
      | c :: _ => c = '>' || c = '/' || Text.isSpace c

/-- A character of raw text; references stay live in `textarea` only. -/
def escapeRawChar (name : String) (c : Char) : List Char :=
  if c = '<' then "&lt;".toList
  else if c = '&' && name != "textarea" then "&amp;".toList
  else [c]

/-! ## Rewriting -/

/-- Where a position of the text lies. -/
inductive Place where
  /-- In ordinary text. -/
  | text
  /-- In markup, with so many characters to go, and then in the raw text that it opens. -/
  | markup (left : Nat) (opens : Option String)
  /-- In the raw text of an element. -/
  | raw (name : String)
deriving DecidableEq, Repr

/-- The place at a position: markup ends when no characters are left of it, raw text at its
end tag. -/
def Place.settle (p : Place) (cs : List Char) : Place :=
  let ended : Place := match p with
    | .markup 0 none => .text
    | .markup 0 (some name) => .raw name
    | p => p
  match ended with
  | .raw name => if endsRawText name cs then .text else .raw name
  | p => p

/-- Rewrites a text from a place on. -/
def escapeFrom (p : Place) : List Char → List Char
  | [] => []
  | c :: rest =>
    match p.settle (c :: rest) with
    | .markup n opens => c :: escapeFrom (.markup (n - 1) opens) rest
    | .raw name => escapeRawChar name c ++ escapeFrom (.raw name) rest
    | .text =>
      if c = '<' then
        match markupLength? rest with
        | some n => c :: escapeFrom (.markup n (rawTextName? (rest.take n))) rest
        | none => "&lt;".toList ++ escapeFrom .text rest
      else c :: escapeFrom .text rest

/-- Escapes every `<` that starts no markup and the content of raw text elements. -/
def escapeStray (cs : List Char) : List Char := escapeFrom .text cs

end Markup

end PagePress
