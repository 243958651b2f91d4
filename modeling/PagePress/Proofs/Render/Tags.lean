import PagePress.Proofs.Render.Gauge
import PagePress.Proofs.Render.Totality
import PagePress.Proofs.View.Elements

/-!
# Tags — elements that no standard renderer makes

The standard renderers make elements of the tags `standardTags`.  The elements of any other tag
they keep as they are and in their order.

* `tagGauge`: such elements are a measure that no standard renderer changes;
* `ofKind_marks` says so of the standard renderer of every kind that does not look into its
  children's children.
-/

namespace PagePress

namespace Render

open Mdast (Kind)
open View (Node tagged)

/-- The elements of a tag in what a slot holds. -/
def marks (tag : String) (o : Option Node) : List Node := tagged tag o.toList

section

variable {tag : String} (htag : tag ∉ standardTags)

/-- The elements of a tag that no standard renderer makes. -/
def tagGauge : Gauge Node where
  measure := tagged tag
  measure_append := View.tagged_append
  measure_blank := fun _ _ => rfl
  measure_element := fun _ ht _ _ => View.tagged_element fun h => htag (h ▸ ht)

include htag

theorem marks_standard {t : String} (ht : t ∈ standardTags) (as : Dict String) (cs : List Node) :
    marks tag (some (.element t as cs)) = tagged tag cs :=
  (tagGauge htag).measure_element t ht as cs

theorem marks_codeBlock (f : Mdast.Fields) : marks tag (some (codeBlock f)) = [] :=
  (marks_standard htag (by decide) _ _).trans (marks_standard htag (by decide) _ _)

theorem marks_imageReference (s : Site) : marks tag (some (imageReference s)) = [] := by
  unfold imageReference
  cases s.referent? with
  | none => rfl
  | some d => exact marks_standard htag (by decide) _ _

theorem marks_footnoteReference (f : Mdast.Fields) :
    marks tag (some (footnoteReference f)) = [] :=
  (marks_standard htag (by decide) _ _).trans (marks_standard htag (by decide) _ _)

/-- A standard renderer that shows the content of its node shows the marks in it, any other
shows none.  Raw HTML is not covered, and neither are tables and rows: they assemble what stands
further below. -/
theorem ofKind_marks {s : Site} {defs : List (String × Mdast.Node)} {k : Kind}
    (hkind : s.node.kind? = some k) (hdefs : s.definition? = lookup defs)
    (hhtml : k ≠ .html) (htable : k ≠ .table) (hrow : k ≠ .tableRow) :
    (ofKind s k >>= Output.slot).map (marks tag) =
      if showsContent defs s.node then s.content.map (tagged tag) else .ok [] := by
  have hempty : ∀ {t as}, t ∈ standardTags →
      (Output.node (.element t as [])).slot.map (marks tag) = .ok [] :=
    fun ht => congrArg Except.ok (marks_standard htag ht _ [])
  simp only [showsContent, hkind]
  cases k with
  | text => rfl
  | thematicBreak => exact hempty (by decide)
  | table => exact absurd rfl htable
  | tableRow => exact absurd rfl hrow
  | html => exact absurd rfl hhtml
  | code => exact congrArg Except.ok (marks_codeBlock htag _)
  | yaml => rfl
  | definition => rfl
  | inlineCode => exact congrArg Except.ok (marks_standard htag (by decide) _ _)
  | «break» => exact hempty (by decide)
  | image => exact hempty (by decide)
  | linkReference =>
      have hreferent : (s.node.fields.identifier.bind (lookup defs)) = s.referent? := by
        rw [Site.referent?, hdefs]
      rw [hreferent, ofKind, linkReference]
      cases s.referent? with
      | none => rfl
      | some d =>
          cases s.content with
          | error e => rfl
          | ok ns => exact congrArg Except.ok (marks_standard htag (by decide) _ ns)
  | imageReference => exact congrArg Except.ok (marks_imageReference htag s)
  | footnoteReference => exact congrArg Except.ok (marks_footnoteReference htag _)
  | _ => exact (tagGauge htag).slot_ofKind (by decide)

end

end Render

end PagePress
