import PagePress.Markdown.Margin

/-!
# Containers

Block quotes, list items and footnotes hold other blocks.  A line belongs to an open container
if it starts with the mark or the indentation that the container asks for.

* `passContainers` passes what a line owes to the open containers;
* `Margin.quoteMark?`, `Margin.listMark?`, `Margin.taskMark?` and `Margin.alertMark?` read the
  marks that open containers.
-/

namespace PagePress

namespace Markdown

/-- An open container. -/
inductive Container where
  | quote
  /-- A list: whether it is tight so far, its mark, and the number of its first item. -/
  | list (tight : Bool) (mark : Char) (first : Nat)
  /-- An item whose content is indented by some columns. -/
  | item (indent : Nat)
  | footnote (label : String)
deriving DecidableEq, Repr

/-! ## Thematic breaks -/

/-- Counts the marks of a thematic break in a line; none if the line holds anything else. -/
def breakMarks? (mark : Char) : List Char → Option (Nat × Nat)
  | [] => some (0, 0)
  | c :: cs =>
    if c = '\n' || c = '\r' then (lineEnding? (c :: cs)).map fun n => (0, n)
    else if c = mark then (breakMarks? mark cs).map fun (k, n) => (k + 1, n + 1)
    else if c = ' ' || c = '\t' then (breakMarks? mark cs).map fun (k, n) => (k, n + 1)
    else none

/-- The length of the thematic break at the front, with its line ending. -/
def thematicBreak? : List Char → Option Nat
  | [] => none
  | c :: cs =>
    if c = '*' || c = '-' || c = '_' then
      match breakMarks? c (c :: cs) with
      | some (k, n) => if 3 ≤ k then some n else none
      | none => none
    else none

/-! ## Marks -/

namespace Margin

/-- Passes the mark of a block quote and a column after it. -/
def quoteMark? (m : Margin) : Option Margin :=
  let (n, m) := m.indent 4
  if n < 4 then (m.passChar? '>').map fun m => (m.pass 1).2 else none

/-- Passes the columns between a list mark and the content of its item; up to three of them
belong to the indentation of the content. -/
def contentIndent (m : Margin) (indent : Nat) : Nat × Margin :=
  if isBlankLine m.rest then (indent, m)
  else
    let (n, m') := m.indent 4
    if n < 4 then (indent + n, m') else (indent, m)

/-- Passes the column that has to follow a list mark. -/
def afterMark? (m : Margin) : Option Margin :=
  let (missing, m) := m.pass 1
  if missing = 0 || m.atEnd then some m else none

/-- A list mark after `indent` columns: its character, its number and the indentation of the
item's content. -/
def listMark? (m : Margin) (indent : Nat) : Option ((Char × Nat × Nat) × Margin) :=
  match m.rest with
  | [] => none
  | c :: _ =>
    if c = '-' || c = '+' || c = '*' then
      if (thematicBreak? m.rest).isSome then none
      else
        ((m.skip 1).afterMark?).map fun m =>
          let (content, m) := m.contentIndent (indent + 2)
          ((c, 0, content), m)
    else if c.isDigit then
      let digits := m.rest.takeWhile Char.isDigit
      match m.rest.drop digits.length with
      | d :: _ =>
        if digits.length ≤ 9 && (d = '.' || d = ')') then
          ((m.skip (digits.length + 1)).afterMark?).map fun m =>
            let (content, m) := m.contentIndent (indent + 2 + digits.length)
            ((d, decimalValue digits, content), m)
        else none
      | [] => none
    else none

/-- Passes the box of a task and tells whether it is checked. -/
def taskMark? (m : Margin) : Option (Bool × Margin) :=
  let m := (m.indent 3).2
  match m.rest with
  | '[' :: c :: ']' :: d :: _ =>
    if !isGap d then none
    else if isGap c then some (false, m.skip 3)
    else if c = 'x' || c = 'X' then some (true, m.skip 3)
    else none
  | _ => none

/-- The names of alerts. -/
def alertNames : List String := ["note", "tip", "important", "warning", "caution"]

/-- Passes the line that makes a block quote an alert. -/
def alertMark? (m : Margin) : Option Margin :=
  match m.rest with
  | '[' :: '!' :: rest =>
    alertNames.findSome? fun name =>
      if Text.startsWithLower name.toList rest then
        match rest.drop name.length with
        | ']' :: after =>
          (blankLine? after).map fun n => m.skip (name.length + 3 + n)
        | _ => none
      else none
  | _ => none

end Margin

/-! ## Lines of a container -/

/-- Passes what a line owes to a container. -/
def passContainer? (c : Container) (m : Margin) : Option Margin :=
  let indented (n : Nat) : Option Margin :=
    let (missing, m') := m.pass n
    if missing = 0 || m'.atEnd then some m' else none
  match c with
  | .quote => m.quoteMark?
  | .list .. => some m
  | .item n => indented n
  | .footnote _ => indented 4

/-- Passes what a line owes to containers, from the outside in, up to the first that it does
not belong to; the first result is the number of containers it belongs to. -/
def passContainers : List Container → Margin → Nat × Margin
  | [], m => (0, m)
  | c :: cs, m =>
    match passContainer? c m with
    | some m =>
      let (n, m) := passContainers cs m
      (n + 1, m)
    | none => (0, m)

/-- Passes what a line owes to containers and tells whether it belongs to all of them. -/
def passAllContainers (cs : List Container) (m : Margin) : Bool × Margin :=
  let (n, m) := passContainers cs m
  (n == cs.length, m)

/-- The number of characters that the containers take up at the start of a line. -/
def containerWidth (cs : List Container) (rest : List Char) : Nat :=
  (passContainers cs ⟨rest, 0, 0, 0⟩).2.ix

end Markdown

end PagePress
