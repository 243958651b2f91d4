import PagePress.Mdast.Node

/-!
# Events of a markdown document

Reading a document yields a flat list of events: a tag opens, the innermost open tag closes, or
a leaf stands on its own.  Each event carries the span of the text it comes from.
-/

namespace PagePress

namespace Markdown

/-- A stretch of a text, in bytes. -/
structure Span where
  start : Nat
  stop : Nat
deriving DecidableEq, Repr

/-- The level of a heading, from zero for the largest to five. -/
abbrev Level := Fin 6

/-- What encloses other events. -/
inductive Tag where
  | paragraph
  | heading (level : Level)
  | blockquote
  /-- A block of code, with the information of its fence if it has one. -/
  | code (info : Option String)
  | htmlBlock
  | metadata
  /-- A list, with the number of its first item if it is ordered. -/
  | list (first : Option Nat)
  | item
  | footnoteDefinition (label : String)
  | table (align : List (Option Mdast.Align))
  | tableRow
  | tableCell
  | emphasis
  | strong
  | delete
  /-- A link; an e-mail address gets its scheme. -/
  | link (email : Bool) (url title : String)
  | image (url title : String)
  /-- Content that stands directly in what surrounds the tag. -/
  | group
deriving DecidableEq, Repr

/-- One event. -/
inductive Event where
  | open (tag : Tag)
  | close
  | text (s : String)
  /-- A formula in a line. -/
  | inlineMath (s : String)
  /-- A formula on lines of its own. -/
  | displayMath (s : String)
  | code (s : String)
  /-- A line of an HTML block. -/
  | html (s : String)
  | inlineHtml (s : String)
  | footnoteReference (label : String)
  | softBreak
  | hardBreak
  | rule
  | task (checked : Bool)
deriving DecidableEq, Repr

/-- An event at its place in the text. -/
structure Located where
  event : Event
  span : Span
deriving DecidableEq, Repr

end Markdown

end PagePress
