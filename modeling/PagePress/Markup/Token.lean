import PagePress.Dict
import PagePress.Markup.RawText
import PagePress.Markup.Reference
import PagePress.Text.Blank

/-!
# Markup tokens

* `Token` is a start tag, an empty tag, an end tag or a piece of text;
* `attributes` reads the attributes of a tag tolerantly;
* `Token.ofChars?` reads a whole text; comments, declarations and processing instructions
  give no token, an unfinished or misshapen one is an error.
-/

namespace PagePress

namespace Markup

/-- A token of markup. -/
inductive Token where
  | open (tag : String) (attrs : Dict String)
  | empty (tag : String) (attrs : Dict String)
  | close (tag : String)
  | text (s : String)
deriving DecidableEq

/-! ## Attributes -/

/-- A blank inside a tag. -/
def isTagBlank (c : Char) : Bool := c = ' ' || c = '\t' || c = '\n' || c = '\r'

/-- Names are compared without letter case. -/
def nameOf (cs : List Char) : String := String.ofList (Text.lower cs)

/-- The value of an attribute: its references resolved, or as written if one does not
resolve. -/
def attrValue (raw : List Char) : String := String.ofList ((Reference.unescape? raw).getD raw)

/-- Reads attributes.  A repeated name is passed over up to the next blank after its equals
sign; a quoted value that does not end, or a missing one, ends the reading. -/
def attributesFrom (fuel : Nat) (seen : List (List Char)) (cs : List Char) :
    List (String × String) :=
  match fuel with
  | 0 => []
  | fuel + 1 =>
    match cs.dropWhile isTagBlank with
    | [] => []
    | first :: after =>
      let inKey (c : Char) : Bool := c != '=' && !isTagBlank c
      let key := first :: after.takeWhile inKey
      let repeated := seen.contains key
      match (after.dropWhile inKey).dropWhile isTagBlank with
      | '=' :: value =>
        if repeated then attributesFrom fuel seen (value.dropWhile fun c => !isTagBlank c)
        else
          match value.dropWhile isTagBlank with
          | [] => []
          | q :: rest =>
            if q = '"' || q = '\'' then
              let raw := rest.takeWhile (· != q)
              match rest.drop raw.length with
              | _ :: rest => (nameOf key, attrValue raw) :: attributesFrom fuel (key :: seen) rest
              | [] => []
            else
              let raw := (q :: rest).takeWhile fun c => !isTagBlank c
              (nameOf key, attrValue raw)
                :: attributesFrom fuel (key :: seen) ((q :: rest).drop raw.length)
      | rest =>
        if repeated then attributesFrom fuel seen rest
        else (nameOf key, "") :: attributesFrom fuel (key :: seen) rest

/-- The attributes of a tag; of names that differ in letter case only the last one counts. -/
def attributes (cs : List Char) : Dict String := .ofList (attributesFrom (cs.length + 1) [] cs)

/-! ## Tags and declarations -/

/-- The token of a start or empty tag from what stands between `<` and `>`. -/
def Token.ofTag (content : List Char) : Token :=
  let isEmpty := content.getLast? = some '/'
  let content := if isEmpty then content.dropLast else content
  let name := content.takeWhile fun c => !isTagBlank c
  let attrs := attributes (content.drop name.length)
  if isEmpty then .empty (nameOf name) attrs else .open (nameOf name) attrs

/-- The token of an end tag from what stands between `</` and `>`. -/
def Token.ofEndTag (content : List Char) : Token :=
  let trimmed := Text.trimEnd isTagBlank content
  .close (nameOf (if trimmed.isEmpty then content else trimmed))

/-- The length of a tag up to its `>`, quoted attribute values skipped. -/
def tagContentLength? (quote : Option Char) : List Char → Option Nat
  | [] => none
  | c :: rest =>
    match quote with
    | some q => (tagContentLength? (if c = q then none else some q) rest).map (· + 1)
    | none =>
      if c = '>' then some 0
      else (tagContentLength? (if c = '"' || c = '\'' then some c else none) rest).map (· + 1)

/-- The length of a document type declaration up to its `>`, an internal subset in brackets
with its comments, instructions and quoted values skipped. -/
def doctypeLength? (fuel : Nat) (inside : Bool) (cs : List Char) : Option Nat :=
  match fuel with
  | 0 => none
  | fuel + 1 =>
    match cs with
    | [] => none
    | c :: rest =>
      let skip (n : Option Nat) : Option Nat := do
        let n ← n
        (doctypeLength? fuel inside (rest.drop n)).map (· + n + 1)
      if inside then
        if c = ']' then (doctypeLength? fuel false rest).map (· + 1)
        else if c = '"' || c = '\'' then skip ((Text.find? [c] rest).map (· + 1))
        else if ['<', '!', '-', '-'].isPrefixOf cs then
          skip ((Text.find? ['-', '-', '>'] (rest.drop 3)).map (· + 6))
        else if ['<', '?'].isPrefixOf cs then skip ((Text.find? ['?', '>'] rest).map (· + 2))
        else (doctypeLength? fuel true rest).map (· + 1)
      else if c = '>' then some 0
      else if c = '[' then (doctypeLength? fuel true rest).map (· + 1)
      else (doctypeLength? fuel false rest).map (· + 1)

/-- What a `<` starts: the token, if it gives one, and the number of characters after the `<`
that belong to it.  None if it is unfinished or misshapen. -/
def markupAt? (cs : List Char) : Option (Option Token × Nat) :=
  match cs with
  | [] => none
  | '!' :: '-' :: rest =>
    match rest with
    | '-' :: body => do
      let n ← Text.find? ['-', '-', '>'] body
      some (none, n + 6)
    | _ => none
  | '!' :: '[' :: rest => do
    let n ← Text.find? [']', ']', '>'] rest
    let body ← Text.dropWord? "CDATA[".toList (rest.take n)
    some (some (.text (String.ofList body)), n + 5)
  | '!' :: c :: rest =>
    if c = 'D' || c = 'd' then do
      let n ← doctypeLength? (rest.length + 1) false rest
      let name ← if Text.startsWithLower "octype".toList rest then some ((rest.take n).drop 6)
        else none
      if name.all isTagBlank then none else some (none, n + 3)
    else none
  | '!' :: [] => none
  | '?' :: rest => do
    -- The sign that starts an instruction may end it as well, and leaves nothing in it then.
    let n ← Text.find? ['?', '>'] ('?' :: rest)
    if n = 0 then none else some (none, n + 2)
  | '/' :: rest => do
    let n ← tagContentLength? none rest
    some (some (.ofEndTag (rest.take n)), n + 2)
  | cs => do
    let n ← tagContentLength? none cs
    some (some (.ofTag (cs.take n)), n + 1)

/-- What an ampersand starts: the text of the reference up to its semicolon, or the ampersand
itself if another ampersand, a `<` or the end of the text comes first. -/
def referenceAt (cs : List Char) : String × Nat :=
  let body := cs.takeWhile fun c => c != ';' && c != '&' && c != '<'
  match cs.drop body.length with
  | ';' :: _ => (Reference.text body, body.length + 1)
  | _ => ("&", 0)

/-! ## Reading -/

/-- Reads tokens after passing over the first `skip` characters. -/
def Token.readFrom? (skip : Nat) : List Char → Option (List Token)
  | [] => some []
  | c :: rest =>
    match skip with
    | n + 1 => readFrom? n rest
    | 0 =>
      if c = '<' then
        match markupAt? rest with
        | some (token?, n) => (readFrom? n rest).map (token?.toList ++ ·)
        | none => none
      else if c = '&' then
        let (s, n) := referenceAt rest
        (readFrom? n rest).map (.text s :: ·)
      else (readFrom? 0 rest).map (.text (String.ofList [c]) :: ·)

/-- A byte order mark at the start of a text. -/
def byteOrderMark : Char := '\ufeff'

/-- The tokens of a text, a byte order mark at its start dropped; none if some markup is
unfinished or misshapen. -/
def Token.ofChars? (cs : List Char) : Option (List Token) :=
  match cs with
  | c :: rest => if c = byteOrderMark then readFrom? 0 rest else readFrom? 0 (c :: rest)
  | [] => some []

end Markup

end PagePress
