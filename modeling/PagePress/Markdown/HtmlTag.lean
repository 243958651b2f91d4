import PagePress.Markdown.Container

/-!
# HTML in markdown

* `HtmlTag.tag?` reads a start or end tag;
* `HtmlTag.inline?` reads a tag, a comment, an instruction or a declaration inside a line of
  text;
* `HtmlTag.blockEnd?`, `HtmlTag.opensBlock` and `HtmlTag.standsAlone` tell which lines start a
  block of HTML.
-/

namespace PagePress

namespace Markdown

namespace HtmlTag

/-- What is read and what is left. -/
abbrev Reading := Option (List Char × List Char)

/-- What a tag may do at a line ending: stop there, or go on after the characters that belong
to the containers. -/
abbrev Wrap := Option (List Char → Nat)

/-- Puts characters before those that are read. -/
def prepend (cs : List Char) (r : Reading) : Reading := r.map fun (read, rest) => (cs ++ read, rest)

/-- The rest of a text after a line ending of some length and what the containers take up. -/
def nextLine (width : List Char → Nat) (n : Nat) (cs : List Char) : List Char :=
  let after := cs.drop n
  after.drop (width after)

/-! ## Tags -/

/-- Reads spacing; `fuel` bounds its length. -/
def spacing (wrap : Wrap) : Nat → List Char → Reading
  | 0, cs => some ([], cs)
  | _ + 1, [] => some ([], [])
  | fuel + 1, c :: cs =>
    if isGap c then prepend [c] (spacing wrap fuel cs)
    else
      match lineEnding? (c :: cs) with
      | none => some ([], c :: cs)
      | some n => do
        let width ← wrap
        prepend ((c :: cs).take n) (spacing wrap fuel (nextLine width n (c :: cs)))

/-- Reads up to and with a quote; `fuel` bounds the length. -/
def quotedValue (wrap : Wrap) (quote : Char) : Nat → List Char → Reading
  | 0, _ => none
  | _ + 1, [] => none
  | fuel + 1, c :: cs =>
    if c = quote then some ([c], cs)
    else
      match lineEnding? (c :: cs) with
      | none => prepend [c] (quotedValue wrap quote fuel cs)
      | some n => do
        let width ← wrap
        prepend ((c :: cs).take n) (quotedValue wrap quote fuel (nextLine width n (c :: cs)))

/-- A character that ends an attribute value without quotes. -/
def endsBareValue (c : Char) : Bool :=
  c = '\'' || c = '"' || c = ' ' || c = '=' || c = '>' || c = '<' || c = '\x60' || c = '\n'
    || c = '\r'

/-- Reads an attribute value. -/
def value (wrap : Wrap) : List Char → Reading
  | [] => none
  | c :: cs =>
    if c = '"' || c = '\'' then prepend [c] (quotedValue wrap c (cs.length + 1) cs)
    else if endsBareValue c then none
    else some ((c :: cs).takeWhile (!endsBareValue ·), (c :: cs).dropWhile (!endsBareValue ·))

/-- A character that may start the name of an attribute. -/
def startsName (c : Char) : Bool := c.isAlpha || c = '_' || c = ':'

/-- A character of the name of an attribute. -/
def isNameChar (c : Char) : Bool :=
  Text.isAlnum c || c = '_' || c = '.' || c = ':' || c = '-'

/-- Reads an attribute: its name and, after an equals sign, its value. -/
def attr (wrap : Wrap) : List Char → Reading
  | [] => none
  | c :: cs =>
    if !startsName c then none
    else
      let name := c :: cs.takeWhile isNameChar
      let rest := cs.dropWhile isNameChar
      match spacing wrap (rest.length + 1) rest with
      | none => none
      | some (gap, '=' :: after) =>
        match spacing wrap (after.length + 1) after with
        | none => none
        | some (gap', after) => prepend (name ++ gap ++ '=' :: gap') (value wrap after)
      | some _ => some (name, rest)

/-- Reads attributes up to the end of a start tag; `fuel` bounds their number. -/
def attributes (wrap : Wrap) : Nat → List Char → Reading
  | 0, _ => none
  | fuel + 1, cs =>
    match spacing wrap (cs.length + 1) cs with
    | none => none
    | some (_, []) => none
    | some (gap, c :: rest) =>
      if c = '/' || c = '>' then some (gap, c :: rest)
      else if gap.isEmpty then none
      else
        match attr wrap (c :: rest) with
        | none => none
        | some (read, rest) => prepend (gap ++ read) (attributes wrap fuel rest)

/-- Reads the end of a tag. -/
def tagEnd (cs : List Char) : Reading :=
  match cs.dropWhile isGap with
  | '>' :: rest => some (cs.takeWhile isGap ++ ['>'], rest)
  | _ => none

/-- Reads the end of a start tag. -/
def startTagEnd (cs : List Char) : Reading :=
  match cs.dropWhile isGap with
  | '/' :: '>' :: rest => some (cs.takeWhile isGap ++ ['/', '>'], rest)
  | _ => tagEnd cs

/-- A character of the name of an element. -/
def isTagChar (c : Char) : Bool := Text.isAlnum c || c = '-'

/-- Reads the name of an element. -/
def tagName : List Char → Reading
  | [] => none
  | c :: cs =>
    if c.isAlpha then some (c :: cs.takeWhile isTagChar, cs.dropWhile isTagChar) else none

/-- Reads a start or end tag whose `<` is read. -/
def tag? (wrap : Wrap) : List Char → Reading
  | '/' :: cs => do
    let (name, rest) ← tagName cs
    prepend ('/' :: name) (tagEnd rest)
  | cs => do
    let (name, rest) ← tagName cs
    let (read, rest) ← attributes wrap (rest.length + 1) rest
    prepend (name ++ read) (startTagEnd rest)

/-! ## Inside a line of text -/

/-- Reads up to and with a word. -/
def through (word : List Char) (cs : List Char) : Reading :=
  (Text.find? word cs).map fun n => (cs.take (n + word.length), cs.drop (n + word.length))

/-- Reads a comment, a declaration or verbatim data whose `<!` is read. -/
def declaration? (cs : List Char) : Reading :=
  match cs with
  | '-' :: '-' :: _ => through "-->".toList cs
  | '[' :: rest =>
    if "CDATA[".toList.isPrefixOf rest then through "]]>".toList cs else none
  | c :: _ => if c.isAlpha then through ['>'] cs else none
  | [] => none

/-- Reads HTML in a line whose `<` is read. -/
def inline? (wrap : Wrap) : List Char → Reading
  | '!' :: cs => prepend ['!'] (declaration? cs)
  | '?' :: cs => prepend ['?'] (through "?>".toList cs)
  | cs => tag? wrap cs

/-! ## Blocks of HTML -/

/-- Elements that start a block which ends with the line that holds their end tag. -/
def verbatimNames : List String := ["pre", "style", "script", "textarea"]

/-- The text that ends the block which the characters after `<` start, if they start one that
goes on up to a certain text. -/
def blockEnd? (cs : List Char) : Option String :=
  let verbatim := verbatimNames.find? fun name =>
    Text.startsWithLower name.toList cs &&
      match cs.drop name.length with
      | [] => true
      | c :: _ => isSpacing c || c = '>'
  match verbatim, cs with
  | some name, _ => some ("</" ++ name ++ ">")
  | none, '!' :: '-' :: '-' :: _ => some "-->"
  | none, '?' :: _ => some "?>"
  | none, '!' :: c :: rest =>
    if c = '[' && "CDATA[".toList.isPrefixOf rest then some "]]>"
    else if c.isAlpha then some ">"
    else none
  | none, _ => none

/-- Elements that start a block which ends at a blank line. -/
def blockNames : List String :=
  ["address", "article", "aside", "base", "basefont", "blockquote", "body", "caption", "center",
    "col", "colgroup", "dd", "details", "dialog", "dir", "div", "dl", "dt", "fieldset",
    "figcaption", "figure", "footer", "form", "frame", "frameset", "h1", "h2", "h3", "h4", "h5",
    "h6", "head", "header", "hr", "html", "iframe", "legend", "li", "link", "main", "menu",
    "menuitem", "nav", "noframes", "ol", "optgroup", "option", "p", "param", "search",
    "section", "summary", "table", "tbody", "td", "tfoot", "th", "thead", "title", "tr",
    "track", "ul"]

/-- Whether the characters after `<` start a tag of a block element. -/
def opensBlock (cs : List Char) : Bool :=
  let cs := match cs with
    | '/' :: rest => rest
    | _ => cs
  let name := cs.takeWhile Text.isAlnum
  blockNames.contains (String.ofList (Text.lower name)) &&
    match cs.drop name.length with
    | [] => true
    | '/' :: '>' :: _ => true
    | c :: _ => c = ' ' || c = '\t' || c = '\r' || c = '\n' || c = '>'

/-- Whether the characters after `<` are a tag and nothing else up to the end of the line. -/
def standsAlone (cs : List Char) : Bool :=
  match tag? none cs with
  | some (_, rest) => isBlankLine rest
  | none => false

end HtmlTag

end Markdown

end PagePress
