import PagePress.Render.Document

/-!
# Reentrant rendering — renderers that have further nodes rendered

A renderer sees what the descendants of its node render to.  A reentrant renderer may have any
node of its choice rendered besides, such as the definition that its node refers to, and the
renderer of that node may do the same in its turn.

* `Answers` is what a renderer is told of the nodes that it has rendered;
* `OpenRegistry.answersAt` nests such calls down to a depth and leaves deeper ones to a cut-off;
* `OpenRegistry.Returns` is the result of rendering a document: one that no cut-off takes part in.
-/

namespace PagePress

namespace Render

/-- What a renderer is told of each node that it has rendered. -/
abbrev Answers := Mdast.Node → Part

/-- A renderer that may have further nodes rendered. -/
abbrev OpenRenderer := Answers → Renderer

/-- A selector and the reentrant renderer of the nodes it selects. -/
structure OpenMatcher where
  selector : Selector
  render : OpenRenderer

/-- The matcher whose calls are answered. -/
def OpenMatcher.close (answers : Answers) (m : OpenMatcher) : Matcher :=
  ⟨m.selector, m.render answers⟩

/-- Reentrant matchers in the order in which they are tried. -/
abbrev OpenRegistry := List OpenMatcher

/-- Matchers whose renderers have no further nodes rendered. -/
def Registry.toOpen (r : Registry) : OpenRegistry :=
  r.map fun m => ⟨m.selector, fun _ => m.render⟩

namespace OpenRegistry

/-- The first matcher that selects a node. -/
def find? (r : OpenRegistry) (n : Mdast.Node) : Option OpenMatcher :=
  List.find? (fun m => m.selector.selects n) r

/-- The matchers with their calls answered. -/
def close (answers : Answers) (r : OpenRegistry) : Registry := r.map (·.close answers)

/-- Answers to calls that are nested at most so deep; the calls below are cut off. -/
def answersAt (r : OpenRegistry) (defs : List (String × Mdast.Node)) (cut : Answers) :
    Nat → Answers
  | 0 => cut
  | depth + 1 => part (r.close (answersAt r defs cut depth)) defs

/-- The view tree of a document where calls are answered down to a depth. -/
def documentAt (r : OpenRegistry) (cut : Answers) (depth : Nat) (root : Mdast.Node) :
    Except Error View.Node :=
  document (r.close (r.answersAt (definitions root) cut depth)) root

/-- Rendering a document comes to a result: at some depth it is the same whatever the calls
below would be told.  Calls without end come to none. -/
def Returns (r : OpenRegistry) (root : Mdast.Node) (x : Except Error View.Node) : Prop :=
  ∃ depth, ∀ cut, r.documentAt cut depth root = x

end OpenRegistry

end Render

end PagePress
