import PagePress.Pipeline.Stage
import PagePress.Text.Blank
import PagePress.Yaml.Reader

/-!
# Sections and metadata of a document

* `splitSections` cuts the top level of a document at its thematic breaks;
* `sectionOf` tells what a section holds: its types, title, introduction, image and front matter;
* `getMetadata` is the stage that finds out all of it.
-/

namespace PagePress

namespace Pipeline

/-! ## Sections -/

/-- Cuts a list at the members of a class, which are dropped. -/
def splitWhere {α : Type} (p : α → Bool) : List α → List (List α)
  | [] => [[]]
  | x :: xs =>
    if p x then [] :: splitWhere p xs
    else match splitWhere p xs with
      | [] => [[x]]
      | g :: gs => (x :: g) :: gs

/-- The top level of a document between its thematic breaks, without empty parts. -/
def splitSections (root : Mdast.Node) : List (List Mdast.Node) :=
  (splitWhere (fun n => n.is .thematicBreak) root.children).filter fun g => !g.isEmpty

/-! ## Front matter -/

/-- Reads front matter; anything but a mapping is ignored. -/
def frontMatter (n : Mdast.Node) : Option (Dict Json) × Log :=
  match n.value with
  | none => (none, [])
  | some text =>
    match Yaml.read? text with
    | some (.obj fs) => (some (.ofList fs), [])
    | some _ => (none, [⟨.warn, "Front matter is not a mapping, ignoring it"⟩])
    | none => (none, [⟨.warn, "Invalid front matter: no single well-formed document"⟩])

/-- The front matter in a node, if the node is there. -/
def frontMatterOf (n : Option Mdast.Node) : Option (Dict Json) × Log :=
  match n with
  | none => (none, [])
  | some n => frontMatter n

/-! ## Types -/

/-- A text of blanks only. -/
def isBlankText (n : Mdast.Node) : Bool :=
  n.is .text && n.value.all Text.allBlank

/-- Puts a text at its place in an ascending list, unless it is there. -/
def insertText (s : String) : List String → List String
  | [] => [s]
  | t :: ts => if s < t then s :: t :: ts else if s = t then t :: ts else t :: insertText s ts

/-- The different texts of a list in ascending order. -/
def distinct (ss : List String) : List String := ss.foldr insertText []

/-- The type that a node counts as: a paragraph that holds one kind of phrasing only, apart from
text, counts as that kind. -/
def effectiveType (n : Mdast.Node) : String :=
  if n.is .paragraph then
    match distinct ((n.children.filter fun c => !isBlankText c).map Mdast.Node.type) with
    | [kind] => if kind = Mdast.Kind.text.name then n.type else kind
    | _ => n.type
  else n.type

/-- Names for the types that a section holds, and for the only one. -/
def sectionTypes (children : List Mdast.Node) : List String :=
  let kinds := distinct ((children.filter fun n => !n.is .yaml).map effectiveType)
  kinds.map ("has-" ++ ·) ++
    match kinds with
    | [kind] => ["is-" ++ kind ++ "-only"]
    | _ => []

/-! ## Parts of a section -/

/-- The text of the first heading. -/
def titleOf (children : List Mdast.Node) : Option String :=
  (children.find? fun n => n.is .heading).map Mdast.Node.textContent

/-- Whether a node counts as a paragraph. -/
def isProse (n : Mdast.Node) : Bool := n.is .paragraph && effectiveType n = Mdast.Kind.paragraph.name

/-- The text of the first paragraph with any. -/
def introOf (children : List Mdast.Node) : Option String :=
  ((children.filter isProse).map fun n => Text.trim n.textContent).find? fun s => s ≠ ""

/-- The address of the first image. -/
def imageOf (children : List Mdast.Node) : Option String :=
  ((children.flatMap Mdast.Node.walk).find? fun n => n.is .image).bind fun n => n.fields.url

/-- From the start of the first node to the end of the last. -/
def spanOf (children : List Mdast.Node) : Option Mdast.Position := do
  let first ← children.head?.bind Mdast.Node.position
  let last ← children.getLast?.bind Mdast.Node.position
  some (.span first.start last.stop)

/-- What a section holds. -/
def sectionOf (children : List Mdast.Node) : Section × Log :=
  let (metadata, log) := frontMatterOf (children.find? fun n => n.is .yaml)
  ({ types := sectionTypes children
     children
     position := spanOf children
     metadata
     title := titleOf children
     intro := introOf children
     image := imageOf children }, log)

/-! ## The stage -/

/-- Finds out what a document holds. -/
def Content.withMetadata (c : Content) (root : Mdast.Node) : Content × Log :=
  let (metadata, log) := frontMatterOf (root.children.head?.filter fun n => n.is .yaml)
  let found := (splitSections root).map sectionOf
  let sections := found.map (·.1)
  ({ c with
      sections
      metadata
      title := sections.findSome? Section.title
      intro := sections.findSome? Section.intro
      image := sections.findSome? Section.image },
    log ++ found.flatMap fun (x : Section × Log) => x.2)

/-- Notes the sections and the metadata of the document. -/
def getMetadata : Stage where
  name := "get_metadata"
  run _ s :=
    match s.content.mdast with
    | none => .completed s [⟨.debug, "No mdast, skipping metadata"⟩]
    | some root =>
      let (content, log) := s.content.withMetadata root
      .completed { s with content } log

end Pipeline

end PagePress
