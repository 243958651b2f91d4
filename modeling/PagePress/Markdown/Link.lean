import PagePress.Markdown.Container
import PagePress.Text.Blank
import PagePress.Text.Case
import PagePress.Text.Entity

/-!
# The parts of links

* `Link.unescape` resolves backslash escapes and entities;
* `Link.destination?`, `Link.title?` and `Link.label?` read the parts of a link;
* `Link.autolink?` reads an address between angle brackets;
* `Link.key` is the form under which labels are compared.
-/

namespace PagePress

namespace Markdown

namespace Link

/-! ## Escapes -/

/-- Resolves escapes, where the next `skip` characters are already resolved.  In a table, two
backslashes before a pipe count for nothing. -/
def unescapeFrom (inTable : Bool) : Nat → List Char → List Char
  | _, [] => []
  | skip + 1, _ :: cs => unescapeFrom inTable skip cs
  | 0, c :: cs =>
    if c = '\\' then
      match cs with
      | '\\' :: '|' :: _ =>
        if inTable then '|' :: unescapeFrom inTable 2 cs else '\\' :: unescapeFrom inTable 1 cs
      | d :: _ =>
        if Text.isAsciiPunct d then d :: unescapeFrom inTable 1 cs
        else c :: unescapeFrom inTable 0 cs
      | [] => [c]
    else if c = '&' then
      match Text.Entity.read? (c :: cs) with
      | some (s, n) => s.toList ++ unescapeFrom inTable (n - 1) cs
      | none => c :: unescapeFrom inTable 0 cs
    else if c = '\r' then unescapeFrom inTable 0 cs
    else c :: unescapeFrom inTable 0 cs

/-- Resolves backslash escapes and entities and drops carriage returns. -/
def unescape (inTable : Bool) (cs : List Char) : String :=
  String.ofList (unescapeFrom inTable 0 cs)

/-! ## Destinations -/

/-- Whether a character after a backslash makes an escape. -/
def isEscapable : List Char → Bool
  | c :: _ => Text.isAsciiPunct c
  | [] => false

/-- The length of a destination up to its `>`. -/
def pointedLength? (escaped : Bool) : List Char → Option Nat
  | [] => none
  | c :: cs =>
    if escaped then (pointedLength? false cs).map (· + 1)
    else if c = '\n' || c = '\r' || c = '<' then none
    else if c = '>' then some 0
    else (pointedLength? (c == '\\' && isEscapable cs) cs).map (· + 1)

/-- The length of a destination without angle brackets, `depth` parentheses deep. -/
def bareLength? (most : Nat) (escaped : Bool) (depth : Nat) : List Char → Option Nat
  | [] => some 0
  | c :: cs =>
    if escaped then (bareLength? most false depth cs).map (· + 1)
    else if c.toNat ≤ 32 then some 0
    else if c = '(' then
      if most < depth then none else (bareLength? most false (depth + 1) cs).map (· + 1)
    else if c = ')' then
      if depth = 0 then some 0 else (bareLength? most false (depth - 1) cs).map (· + 1)
    else (bareLength? most (c == '\\' && isEscapable cs) depth cs).map (· + 1)

/-- Reads a destination with at most so many parentheses inside each other; the second result
is the number of characters read. -/
def destination? (most : Nat) : List Char → Option (List Char × Nat)
  | '<' :: cs => (pointedLength? false cs).map fun n => (cs.take n, n + 2)
  | cs => (bareLength? most false 0 cs).map fun n => (cs.take n, n)

/-! ## Titles -/

/-- The character that ends a title. -/
def titleEnd? : List Char → Option Char
  | '"' :: _ => some '"'
  | '\'' :: _ => some '\''
  | '(' :: _ => some ')'
  | _ => none

/-- Reads the rest of a title in a line of text; `width` is the room that containers and
indentation take up in the next line, and `skip` counts the characters already read.  The
second result is the number of characters read. -/
def titleFrom? (inTable : Bool) (width : List Char → Nat) (stop : Char) :
    Nat → List Char → Option (List Char × Nat)
  | _, [] => none
  | skip + 1, _ :: cs => (titleFrom? inTable width stop skip cs).map fun r => (r.1, r.2 + 1)
  | 0, c :: cs =>
    let next (out : List Char) (skip : Nat) :=
      (titleFrom? inTable width stop skip cs).map fun r => (out ++ r.1, r.2 + 1)
    if c = stop then some ([], 1)
    else if c = '(' && stop = ')' then none
    else if c = '\n' || (c = '\r' && cs.head? != some '\n') then next ['\n'] (width cs)
    else if c = '&' then
      match Text.Entity.read? (c :: cs) with
      | some (s, n) => next s.toList (n - 1)
      | none => next [c] 0
    else if c = '\\' then
      match cs with
      | '\\' :: '|' :: _ => if inTable then next ['|'] 2 else next ['\\'] 1
      | d :: _ => if Text.isAsciiPunct d then next [d] 1 else next [c] 0
      | [] => none
    else next [c] 0

/-- Reads a title in a line of text; the second result is the number of characters read. -/
def title? (inTable : Bool) (width : List Char → Nat) (cs : List Char) :
    Option (List Char × Nat) := do
  let stop ← titleEnd? cs
  let (title, n) ← titleFrom? inTable width stop 0 cs.tail
  some (title, n + 1)

/-! ## Labels -/

/-- The greatest number of characters of a label. -/
def longestLabel : Nat := 999

/-- What is read of a label. -/
structure LabelReading where
  /-- The characters read, in reverse, with each run of spacing as one blank. -/
  read : List Char
  /-- The number of characters read that count. -/
  length : Nat
  /-- The number of line endings in the spacing being read, if some is. -/
  spacing : Option Nat
  /-- Whether something other than spacing is read. -/
  solid : Bool

/-- Adds spacing to what is read. -/
def LabelReading.space (r : LabelReading) (breaks : Nat) : LabelReading :=
  { r with
    read := if r.spacing.isSome then r.read else ' ' :: r.read
    length := r.length + 1
    spacing := some (r.spacing.getD 0 + breaks) }

/-- Reads a label up to its bracket.  `wrap` gives the room that containers take up in the next
line, none if a label may not go on there.  The second result is the number of characters
read. -/
def labelFrom? (inTable : Bool) (wrap : List Char → Option Nat) :
    Nat → LabelReading → List Char → Option (List Char × Nat)
  | _, _, [] => none
  | skip + 1, r, _ :: cs => (labelFrom? inTable wrap skip r cs).map fun x => (x.1, x.2 + 1)
  | 0, r, c :: cs =>
    let next (skip : Nat) (r : LabelReading) :=
      (labelFrom? inTable wrap skip r cs).map fun x => (x.1, x.2 + 1)
    let solid (out : List Char) (n : Nat) : LabelReading :=
      ⟨out ++ r.read, r.length + n, none, true⟩
    if longestLabel < r.length then none
    else if c = '[' then none
    else if c = ']' then if r.solid then some (r.read.reverse, 1) else none
    else if c = '\\' then
      match cs with
      | '|' :: _ => if inTable then next 1 (solid ['|'] 2) else next 1 (solid ['|', '\\'] 2)
      | '\\' :: '|' :: _ =>
        if inTable then next 2 (solid ['|', '\\'] 3) else next 1 (solid ['\\', '\\'] 2)
      | d :: _ => next 1 (solid [d, '\\'] 2)
      | [] => none
    else if isSpacing c then
      match lineEnding? (c :: cs) with
      | none => next 0 (r.space 0)
      | some n =>
        if 1 ≤ r.spacing.getD 0 then none
        else
          (wrap (cs.drop (n - 1))).bind fun width =>
            next (n - 1 + width) (r.space 1)
    else next 0 (solid [c] 1)

/-- Reads the rest of a label whose opening bracket is read: its text with spacing collapsed,
and the number of characters up to and with the closing bracket. -/
def label? (inTable : Bool) (wrap : List Char → Option Nat) (cs : List Char) :
    Option (String × Nat) :=
  (labelFrom? inTable wrap 0 ⟨[], 0, none, false⟩ cs).map fun r =>
    (String.ofList (Text.trimEnd (· == ' ') (Text.trimStart (· == ' ') r.1)), r.2)

/-- The form under which labels are compared. -/
def key (label : String) : String := Text.caseFold label

/-! ## Addresses -/

/-- A character of the scheme of an address. -/
def isSchemeChar (c : Char) : Bool := Text.isAlnum c || c = '.' || c = '-' || c = '+'

/-- Reads an address with a scheme, up to its `>`. -/
def uri? (cs : List Char) : Option (List Char) :=
  let scheme := cs.takeWhile isSchemeChar
  let startsWell := match scheme with
    | c :: _ => c.isAlpha
    | [] => false
  match cs.drop scheme.length with
  | ':' :: rest =>
    if startsWell && 2 ≤ scheme.length && scheme.length ≤ 32 then
      let isUriChar (c : Char) := 32 < c.toNat && c != '<' && c != '>'
      let body := rest.takeWhile isUriChar
      match rest.drop body.length with
      | '>' :: _ => some (scheme ++ ':' :: body)
      | _ => none
    else none
  | _ => none

/-- A character of the local part of a mail address. -/
def isLocalChar (c : Char) : Bool :=
  Text.isAlnum c || ".!#$%&'*+/=?^_\x60\x7b|\x7d~-".toList.contains c

/-- Reads the host of a mail address: labels of letters, digits and inner hyphens between
dots; `fuel` bounds their number. -/
def host? : Nat → List Char → Option (List Char)
  | 0, _ => none
  | fuel + 1, cs =>
    let label := cs.takeWhile fun c => Text.isAlnum c || c = '-'
    if label.isEmpty || 63 < label.length || label.head? == some '-'
        || label.getLast? == some '-' then none
    else
      match cs.drop label.length with
      | '.' :: rest => (host? fuel rest).map fun more => label ++ '.' :: more
      | _ => some label

/-- Reads a mail address, up to its `>`. -/
def email? (cs : List Char) : Option (List Char) :=
  let user := cs.takeWhile isLocalChar
  match user, cs.drop user.length with
  | _ :: _, '@' :: rest =>
    match host? (rest.length + 1) rest with
    | some host =>
      if (rest.drop host.length).head? == some '>' then some (user ++ '@' :: host) else none
    | none => none
  | _, _ => none

/-- Reads an address whose `<` is read; the first result tells whether it is a mail address. -/
def autolink? (cs : List Char) : Option (Bool × List Char) :=
  match uri? cs with
  | some address => some (false, address)
  | none => (email? cs).map fun address => (true, address)

end Link

end Markdown

end PagePress
