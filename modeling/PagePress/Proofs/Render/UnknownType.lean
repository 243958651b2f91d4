import PagePress.Proofs.Render.Trace

/-!
# Unknown types — what is reported of nodes without a standard type

Without matchers, a node without a standard type is reported where its type is asked.  In a table
it is not: what stands directly below a table or a row is rendered by its place.

* `trace_nil`: without matchers, the trace of a document is the report on the nodes that are asked;
* `unknown_types_reported`: these decide whether a document is rendered, and the first of them
  without a standard type is its error; where tables hold rows and rows hold cells, all nodes that
  are rendered are asked;
* `strayRow_not_reported`: a node in the place of a row is rendered whatever its type.
-/

namespace PagePress

namespace Render

open Mdast (Kind)
open View (Node tagged)

/-! ## Reports -/

/-- The first node without a standard type. -/
def firstUnknown? (ns : List Mdast.Node) : Option Mdast.Node :=
  ns.find? fun n => n.kind?.isNone

theorem firstUnknown?_eq_none {ns : List Mdast.Node} :
    firstUnknown? ns = none ↔ ∀ n ∈ ns, n.kind?.isSome = true := by
  simp [firstUnknown?, Option.isSome_iff_ne_none]

/-- The elements that nodes of standard types come to without matchers, which are none, or the
report of the first that is not of a standard type. -/
def report (ns : List Mdast.Node) : Except Error (List Node) :=
  match firstUnknown? ns with
  | some n => .error (.unknownType n.type)
  | none => .ok []

theorem report_cons_of_unknown {n : Mdast.Node} (h : n.kind? = none) (ns : List Mdast.Node) :
    report (n :: ns) = .error (.unknownType n.type) := by
  rw [report, firstUnknown?, List.find?_cons_of_pos (by rw [h]; rfl)]

theorem report_cons_of_known {n : Mdast.Node} (h : n.kind?.isSome = true) (ns : List Mdast.Node) :
    report (n :: ns) = report ns := by
  rw [report, firstUnknown?, List.find?_cons_of_neg (by simpa using Option.isSome_iff_ne_none.1 h)]
  rfl

theorem report_append (ms ns : List Mdast.Node) :
    report (ms ++ ns) = (do
      let xs ← report ms
      let ys ← report ns
      pure (xs ++ ys)) := by
  rw [report, report, report, firstUnknown?, List.find?_append, firstUnknown?, firstUnknown?]
  cases ms.find? fun n => n.kind?.isNone with
  | some m => rfl
  | none =>
      rw [Option.none_or]
      cases ns.find? fun n => n.kind?.isNone <;> rfl

section

variable {defs : List (String × Mdast.Node)} {tag : String}

mutual

/-- Without matchers, the trace of a node is the report on the nodes that are asked in it. -/
theorem trace_nil : ∀ (role : Role) (n : Mdast.Node),
    trace [] defs tag role n = report (byType (places defs role n))
  | role, .mk t f cs => by
    have hchosen : (part [] defs (.mk t f cs)).chosen = none := part_chosen defs _
    by_cases hunknown : role = .own ∧ (Mdast.Node.mk t f cs).kind? = none
    · obtain ⟨rfl, hkind⟩ := hunknown
      rw [trace_of_unknown hchosen hkind, places, byType_cons_own, report_cons_of_unknown hkind]
    · have hkind : role = .own → (Mdast.Node.mk t f cs).kind?.isSome = true := fun hrole =>
        Option.isSome_iff_ne_none.2 fun hkind => hunknown ⟨hrole, hkind⟩
      -- The node itself has nothing to report.
      have hhead : ∀ xs, report (byType ((role, .mk t f cs) :: xs)) = report (byType xs) := by
        intro xs
        by_cases hrole : role = .own
        · rw [hrole, byType_cons_own, report_cons_of_known (hkind hrole)]
        · rw [byType_cons_of_ne hrole]
      rw [trace_of_childRole hchosen hkind, places, hhead]
      cases childRole? defs role (.mk t f cs) with
      | none => rfl
      | some role' => exact traceAll_nil role' cs

theorem traceAll_nil : ∀ (role : Role) (ns : List Mdast.Node),
    traceAll [] defs tag role ns = report (byType (placesAll defs role ns))
  | _, [] => rfl
  | role, n :: ns => by
    rw [traceAll, placesAll, trace_nil role n, traceAll_nil role ns, byType_append,
      report_append]

end

end

/-! ## Documents -/

/-- A computation succeeds if all nodes of a list are of standard types, and otherwise fails with
the type of the first that is not. -/
structure Reports (ns : List Mdast.Node) (x : Except Error Node) : Prop where
  ok_iff : (∃ t, x = .ok t) ↔ ∀ n ∈ ns, n.kind?.isSome = true
  error : ∀ n, firstUnknown? ns = some n → x = .error (.unknownType n.type)

theorem reports_of_map {ns : List Mdast.Node} {x : Except Error Node} {f : Node → List Node}
    (h : x.map f = report ns) : Reports ns x := by
  rw [report] at h
  constructor
  · rw [← firstUnknown?_eq_none]
    cases hfirst : firstUnknown? ns with
    | none =>
        rw [hfirst] at h
        cases x with
        | error e => cases h
        | ok t => exact ⟨fun _ => rfl, fun _ => ⟨t, rfl⟩⟩
    | some n =>
        rw [hfirst] at h
        cases x with
        | error e => exact ⟨nofun, nofun⟩
        | ok t => cases h
  · intro n hfirst
    rw [hfirst] at h
    cases x with
    | error e => exact congrArg Except.error (Except.error.inj h)
    | ok t => cases h

theorem Reports.congr {ms ns : List Mdast.Node} {x : Except Error Node} (h : Reports ms x)
    (hfirst : firstUnknown? ms = firstUnknown? ns) : Reports ns x := by
  refine ⟨?_, fun n hn => h.error n (hfirst.trans hn)⟩
  rw [h.ok_iff, ← firstUnknown?_eq_none, ← firstUnknown?_eq_none, hfirst]

/-- Without matchers and raw HTML, a document is rendered if all nodes that are asked for their
type have a standard one, and otherwise the first that has not is reported.  Where tables hold
rows and rows hold cells, these are the nodes all of whose ancestors are of a kind that renders
its children. -/
theorem unknown_types_reported {root : Mdast.Node}
    (h : ∀ n ∈ root.walk, n.kind? ≠ some .html) :
    Reports (asked (definitions root) .own root) (document [] root) ∧
      ((∀ n ∈ root.walk, Tabular n) →
        Reports (root.reached (rendersChildren (definitions root))) (document [] root)) := by
  -- Any tag that is not a standard one will do.
  have htrace := document_marks (r := []) (show "mark" ∉ standardTags by decide) h
  rw [trace_nil] at htrace
  have hasked : Reports (asked (definitions root) .own root) (document [] root) :=
    reports_of_map htrace
  exact ⟨hasked, fun htabular => hasked.congr (find?_asked htabular trivial)⟩

/-- Unknown types in a cell and behind the table. -/
def sidebar : Mdast.Node :=
  .ofKind .root
    [.ofKind .heading [.ofKind .emphasis [.text "a"]],
      .ofKind .table [.ofKind .tableRow [.ofKind .tableCell [.mk "aside" .none [.text "b"]]]],
      .mk "sidebar" .none []]

theorem sidebar_reported :
    (∀ n ∈ sidebar.walk, n.kind? ≠ some .html) ∧ (∀ n ∈ sidebar.walk, Tabular n) ∧
      Reports (sidebar.reached (rendersChildren (definitions sidebar))) (document [] sidebar) ∧
      document [] sidebar = .error (.unknownType "aside") := by
  have hhtml : ∀ n ∈ sidebar.walk, n.kind? ≠ some .html := by decide +kernel
  have htabular : ∀ n ∈ sidebar.walk, Tabular n := by decide +kernel
  have hreports := (unknown_types_reported hhtml).2 htabular
  exact ⟨hhtml, htabular, hreports, by decide +kernel⟩

/-- A node of an unknown type in the place of a row. -/
def strayRow : Mdast.Node := .ofKind .table [.mk "bogus" .none []]

/-- The place of a row hides the type of what stands there. -/
theorem strayRow_not_reported :
    (∀ n ∈ strayRow.walk, n.kind? ≠ some .html) ∧
      ¬ Reports (strayRow.reached (rendersChildren (definitions strayRow)))
        (document [] strayRow) := by
  refine ⟨by decide +kernel, fun h => ?_⟩
  have hrendered : ¬ ∀ n ∈ strayRow.reached (rendersChildren (definitions strayRow)),
      n.kind?.isSome = true := by decide +kernel
  exact hrendered (h.ok_iff.1 ⟨_, rfl⟩)

end Render

end PagePress
