import PagePress.Toml.Scalar

/-!
# Reading TOML

* `key?` reads a dotted key, `value?` a value of any kind;
* `read?` reads the entries of a whole document.
-/

namespace PagePress

namespace Toml

/-! ## Blanks and remarks -/

/-- Skips spaces and tabs. -/
def skipSpaces (cs : List Char) : List Char := cs.dropWhile isSpace

/-- Skips a remark up to the end of its line. -/
def skipRemark? (cs : List Char) : Option (List Char) :=
  match cs with
  | '#' :: rest =>
    let after := rest.dropWhile fun c => !isControl c
    if after.isEmpty || (newline? after).isSome then some after else none
  | _ => some cs

/-- Skips spaces, remarks and line breaks. -/
def skipLines? : Nat → List Char → Option (List Char)
  | 0, cs => some cs
  | n + 1, cs => do
    let cs ← skipRemark? (skipSpaces cs)
    match newline? cs with
    | some rest => skipLines? n rest
    | none => some cs

/-- Skips what may stand behind a header or a value on its line. -/
def endLine? (cs : List Char) : Option (List Char) := do
  let cs ← skipRemark? (skipSpaces cs)
  if cs.isEmpty then some cs else newline? cs

/-! ## Keys -/

/-- A character of a key without quotes. -/
def isKeyChar (c : Char) : Bool := c.isAlphanum || c = '-' || c = '_'

/-- A part of a key. -/
def keyPart? (cs : List Char) : Option (String × List Char) :=
  match cs with
  | '"' :: rest => shortString? '"' rest
  | '\'' :: rest => shortString? '\'' rest
  | _ =>
    let part := cs.takeWhile isKeyChar
    if part.isEmpty then none else some (String.ofList part, cs.drop part.length)

/-- A key, whose parts stand between dots. -/
def key? : Nat → List Char → Option (List String × List Char)
  | 0, _ => none
  | n + 1, cs => do
    let (part, rest) ← keyPart? (skipSpaces cs)
    match skipSpaces rest with
    | '.' :: rest =>
      let (parts, rest) ← key? n rest
      some (part :: parts, rest)
    | rest => some ([part], rest)

/-! ## Values -/

mutual

/-- A value. -/
def value? : Nat → List Char → Option (Value × List Char)
  | 0, _ => none
  | n + 1, cs =>
    match cs with
    | [] => none
    | '"' :: rest =>
      (string? '"' rest).map fun (x : String × List Char) => (.text x.1, x.2)
    | '\'' :: rest =>
      (string? '\'' rest).map fun (x : String × List Char) => (.text x.1, x.2)
    | '[' :: rest =>
      (items? n [] rest).map fun (x : List Value × List Char) => (.array x.1, x.2)
    | '\x7b' :: rest =>
      (pairs? n [] rest).map fun (x : Entries × List Char) => (.table .inline x.1, x.2)
    | cs =>
      let bare := bareText cs
      (bareValue? bare).map fun v => (v, cs.drop bare.length)

/-- The items of an array, behind those read so far. -/
def items? : Nat → List Value → List Char → Option (List Value × List Char)
  | 0, _, _ => none
  | n + 1, items, cs => do
    let cs ← skipLines? (cs.length + 1) cs
    match cs with
    | ']' :: rest => some (items, rest)
    | cs =>
      let (v, rest) ← value? n cs
      let rest ← skipLines? (rest.length + 1) rest
      match rest with
      | ',' :: rest => items? n (items ++ [v]) rest
      | ']' :: rest => some (items ++ [v], rest)
      | _ => none

/-- The entries of a table between braces, behind those read so far. -/
def pairs? : Nat → Entries → List Char → Option (Entries × List Char)
  | 0, _, _ => none
  | n + 1, es, cs => do
    let cs ← skipLines? (cs.length + 1) cs
    match cs with
    | '\x7d' :: rest => some (es, rest)
    | cs =>
      let (k, rest) ← key? (cs.length + 1) cs
      let rest ← expect? '=' rest
      let (v, rest) ← value? n (skipSpaces rest)
      let es ← store? v k es
      let rest ← skipLines? (rest.length + 1) rest
      match rest with
      | ',' :: rest => pairs? n es rest
      | '\x7d' :: rest => some (es, rest)
      | _ => none

end

/-! ## Documents -/

/-- What is read of a document: its entries, and the header that the next ones belong to. -/
structure Draft where
  root : Entries
  header : List String

/-- A header, behind its first bracket. -/
def header? (d : Draft) (cs : List Char) : Option (Draft × List Char) :=
  match cs with
  | '[' :: rest => do
    let (path, rest) ← key? (rest.length + 1) rest
    let rest ← expect? ']' (← expect? ']' rest)
    let root ← openItem? path d.root
    some (⟨root, path⟩, rest)
  | cs => do
    let (path, rest) ← key? (cs.length + 1) cs
    let rest ← expect? ']' rest
    let root ← openTable? path d.root
    some (⟨root, path⟩, rest)

/-- A key and its value. -/
def entry? (d : Draft) (cs : List Char) : Option (Draft × List Char) := do
  let (k, rest) ← key? (cs.length + 1) cs
  let rest ← expect? '=' rest
  let (v, rest) ← value? (2 * rest.length + 2) (skipSpaces rest)
  let root ← storeIn? d.header k v d.root
  some ({ d with root }, rest)

/-- Reads the lines of a document. -/
def document? : Nat → Draft → List Char → Option Draft
  | 0, _, _ => none
  | n + 1, d, cs => do
    let cs ← skipLines? (cs.length + 1) cs
    match cs with
    | [] => some d
    | '[' :: rest =>
      let (d, rest) ← header? d rest
      document? n d (← endLine? rest)
    | cs =>
      let (d, rest) ← entry? d cs
      document? n d (← endLine? rest)

/-- A text without the mark that may stand before it. -/
def dropMark : List Char → List Char
  | '\ufeff' :: cs => cs
  | cs => cs

/-- The entries of a document. -/
def read? (text : String) : Option Entries :=
  (document? (text.length + 1) ⟨[], []⟩ (dropMark text.toList)).map Draft.root

end Toml

end PagePress
