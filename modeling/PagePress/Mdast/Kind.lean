/-!
# Kinds of markdown nodes

The closed set of standard node types.  A node may carry any type name; the names listed
here are the ones that have a meaning of their own.
-/

namespace PagePress

namespace Mdast

/-- A standard node type. -/
inductive Kind where
  | root
  | paragraph
  | text
  | heading
  | thematicBreak
  | blockquote
  | list
  | listItem
  | table
  | tableRow
  | tableCell
  | html
  | code
  | yaml
  | definition
  | footnoteDefinition
  | emphasis
  | strong
  | delete
  | inlineCode
  | break
  | link
  | image
  | linkReference
  | imageReference
  | footnote
  | footnoteReference
deriving DecidableEq, Repr

namespace Kind

/-- All standard kinds in their listing order. -/
def all : List Kind :=
  [.root, .paragraph, .text, .heading, .thematicBreak, .blockquote, .list, .listItem, .table,
    .tableRow, .tableCell, .html, .code, .yaml, .definition, .footnoteDefinition, .emphasis,
    .strong, .delete, .inlineCode, .break, .link, .image, .linkReference, .imageReference,
    .footnote, .footnoteReference]

/-- The type name of a kind. -/
def name : Kind → String
  | .root => "root"
  | .paragraph => "paragraph"
  | .text => "text"
  | .heading => "heading"
  | .thematicBreak => "thematicBreak"
  | .blockquote => "blockquote"
  | .list => "list"
  | .listItem => "listItem"
  | .table => "table"
  | .tableRow => "tableRow"
  | .tableCell => "tableCell"
  | .html => "html"
  | .code => "code"
  | .yaml => "yaml"
  | .definition => "definition"
  | .footnoteDefinition => "footnoteDefinition"
  | .emphasis => "emphasis"
  | .strong => "strong"
  | .delete => "delete"
  | .inlineCode => "inlineCode"
  | .break => "break"
  | .link => "link"
  | .image => "image"
  | .linkReference => "linkReference"
  | .imageReference => "imageReference"
  | .footnote => "footnote"
  | .footnoteReference => "footnoteReference"

/-- The kind of a type name, if it is a standard one. -/
def ofName? (s : String) : Option Kind := all.find? fun k => k.name == s

/-- Looking up the name of a kind gives the kind back. -/
theorem ofName?_name (k : Kind) : ofName? k.name = some k := by
  cases k <;> decide

end Kind

end Mdast

end PagePress
