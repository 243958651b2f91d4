import PagePress.Proofs.Render.Site
import PagePress.Render.Reentrant

/-!
# First match — what a registry does to a document

Of the matchers of a registry only those count that come first for some node of the document.

* `part_congr`: what a node renders to rests on the renderers that are chosen in it;
* `answersAt_congr`: so does what renderers are told of further nodes, at any depth;
* `Alike` compares what registries render a document to, at every depth of calls and in the end;
* `first_match_decides`: two registries that choose the same renderers for all nodes of a
  document render it alike; matchers that select nothing in it and matchers that always come
  too late change nothing.
-/

namespace PagePress

namespace Render

/-! ## Nodes -/

/-- What stands in the place of a node rests on the renderer that is chosen for it. -/
theorem assemble_congr {r r' : Registry} {defs : List (String × Mdast.Node)} {n : Mdast.Node}
    {ps : List Part}
    (h : (r.find? n).map (fun m => m.render ⟨n, content n ps, ps, lookup defs⟩) =
      (r'.find? n).map fun m => m.render ⟨n, content n ps, ps, lookup defs⟩) :
    assemble r defs n ps = assemble r' defs n ps := by
  have hchosen := congrArg (Option.map (· >>= Output.slot)) h
  simp only [Option.map_map, Function.comp_def] at hchosen
  simp only [assemble, hchosen]

/-- What a node renders to rests on what is chosen for it and for the nodes below it. -/
theorem part_congr {r r' : Registry} {defs : List (String × Mdast.Node)} {root : Mdast.Node}
    (h : ∀ n ∈ root.walk, (r.find? n).map (fun m => m.render (site r defs n)) =
      (r'.find? n).map fun m => m.render (site r defs n)) :
    ∀ n ∈ root.walk, part r defs n = part r' defs n := by
  refine Mdast.Node.of_forall_mem_walk (fun n hn hbelow => ?_) h
  have hchildren : n.children.map (part r defs) = n.children.map (part r' defs) :=
    List.map_congr_left fun c hc => (hbelow c (Mdast.Node.mem_walkAll_of_mem hc)).2
  rw [part_eq, part_eq, ← hchildren]
  exact assemble_congr hn

/-! ## Answers -/

namespace OpenRegistry

variable {r r' : OpenRegistry} {root : Mdast.Node}

theorem find?_close (answers : Answers) (r : OpenRegistry) (n : Mdast.Node) :
    (r.close answers).find? n = (r.find? n).map (·.close answers) := by
  rw [close, Registry.find?, List.find?_map]
  rfl

/-- The same renderer comes first for every node of a document. -/
def SameChoice (root : Mdast.Node) (r r' : OpenRegistry) : Prop :=
  ∀ n ∈ root.walk, (r.find? n).map OpenMatcher.render = (r'.find? n).map OpenMatcher.render

theorem SameChoice.symm (h : SameChoice root r r') : SameChoice root r' r :=
  fun n hn => (h n hn).symm

/-- The renderers that are chosen in a document have only nodes of this document rendered: what
they would be told of others does not matter. -/
def Confined (root : Mdast.Node) (r : OpenRegistry) : Prop :=
  ∀ n ∈ root.walk, ∀ m, r.find? n = some m → ∀ answers answers' : Answers,
    (∀ k ∈ root.walk, answers k = answers' k) →
      m.render answers (site (r.close answers) (definitions root) n) =
        m.render answers' (site (r.close answers) (definitions root) n)

/-- Where renderers are told the same of the nodes of a document, these render to the same. -/
theorem part_close_congr (hsame : SameChoice root r r') (hconfined : Confined root r)
    {answers answers' : Answers} (h : ∀ n ∈ root.walk, answers n = answers' n) :
    ∀ n ∈ root.walk, part (r.close answers) (definitions root) n =
      part (r'.close answers') (definitions root) n := by
  refine part_congr fun n hn => ?_
  -- Both renderers see the same site: the left registry gives it in `part_congr`.
  have hchoice := hsame n hn
  rw [find?_close, find?_close, Option.map_map, Option.map_map]
  cases hfind : r.find? n with
  | none =>
      rw [hfind, Option.map_none, eq_comm, Option.map_eq_none_iff] at hchoice
      rw [hchoice]
      rfl
  | some m =>
      rw [hfind, Option.map_some, eq_comm, Option.map_eq_some_iff] at hchoice
      obtain ⟨m', hfind', hrender⟩ := hchoice
      rw [hfind']
      simp only [Option.map_some, Function.comp_apply, OpenMatcher.close, hrender]
      exact congrArg some (hconfined n hn m hfind answers answers' h)

/-- At every depth, renderers are told the same. -/
theorem answersAt_congr (hsame : SameChoice root r r') (hconfined : Confined root r)
    (cut : Answers) (depth : Nat) :
    ∀ n ∈ root.walk, r.answersAt (definitions root) cut depth n =
      r'.answersAt (definitions root) cut depth n := by
  induction depth with
  | zero => exact fun _ _ => rfl
  | succ depth ih => exact part_close_congr hsame hconfined ih

/-- Two registries render a document alike. -/
structure Alike (root : Mdast.Node) (r r' : OpenRegistry) : Prop where
  /-- To the same tree or error, at whatever depth calls are cut off and whatever the calls below
  are told. -/
  rendered : ∀ cut depth, r.documentAt cut depth root = r'.documentAt cut depth root
  /-- To the same results, where calls come to an end. -/
  returned : ∀ x, r.Returns root x ↔ r'.Returns root x

theorem alike_of_sameChoice (hsame : SameChoice root r r') (hconfined : Confined root r) :
    Alike root r r' := by
  have hrendered : ∀ cut depth, r.documentAt cut depth root = r'.documentAt cut depth root := by
    intro cut depth
    have hpart := part_close_congr hsame hconfined (answersAt_congr hsame hconfined cut depth) root
      (Mdast.Node.mem_walk_self root)
    rw [documentAt, documentAt, document, document, slot, slot, hpart]
  refine ⟨hrendered, fun x => ?_⟩
  unfold Returns
  simp only [hrendered]

/-! ## Results -/

/-- Answers at a depth are answers at a smaller depth with a better cut-off. -/
theorem answersAt_add (r : OpenRegistry) (defs : List (String × Mdast.Node)) (cut : Answers)
    (depth more : Nat) :
    r.answersAt defs cut (more + depth) = r.answersAt defs (r.answersAt defs cut more) depth := by
  induction depth with
  | zero => rfl
  | succ depth ih => rw [← Nat.add_assoc, answersAt, ih, answersAt]

/-- Rendering a document comes to one result at most. -/
theorem Returns.unique {x y : Except Error View.Node} (hx : r.Returns root x)
    (hy : r.Returns root y) : x = y := by
  obtain ⟨d, hd⟩ := hx
  obtain ⟨e, he⟩ := hy
  let cut : Answers := fun n => .mk n none (.ok none) (.ok []) []
  -- At the sum of both depths either result is there.
  have hsum : r.answersAt (definitions root) cut (e + d) =
      r.answersAt (definitions root) cut (d + e) := by rw [Nat.add_comm]
  rw [answersAt_add, answersAt_add] at hsum
  rw [← hd (r.answersAt (definitions root) cut e), ← he (r.answersAt (definitions root) cut d),
    documentAt, documentAt, hsum]

/-! ## Registries without calls -/

theorem close_toOpen (answers : Answers) (r : Registry) : r.toOpen.close answers = r := by
  rw [close, Registry.toOpen, List.map_map]
  exact List.map_id r

/-- Without calls the result is the document as it is rendered. -/
theorem returns_toOpen (r : Registry) (root : Mdast.Node) :
    r.toOpen.Returns root (document r root) :=
  ⟨0, fun cut => by rw [documentAt, close_toOpen]⟩

theorem find?_toOpen (r : Registry) (n : Mdast.Node) :
    r.toOpen.find? n = (r.find? n).map fun m => ⟨m.selector, fun _ => m.render⟩ := by
  rw [Registry.toOpen, find?, List.find?_map]
  rfl

/-- Renderers that have nothing rendered are told nothing. -/
theorem confined_toOpen (r : Registry) (root : Mdast.Node) : r.toOpen.Confined root := by
  intro n _ m hfind answers answers' _
  rw [find?_toOpen] at hfind
  obtain ⟨k, -, rfl⟩ := Option.map_eq_some_iff.1 hfind
  rfl

/-- Where the same renderer comes first for every node, a document is rendered to the same
result. -/
theorem document_congr {q q' : Registry}
    (h : ∀ n ∈ root.walk, (q.find? n).map Matcher.render = (q'.find? n).map Matcher.render) :
    document q root = document q' root := by
  have hsame : SameChoice root q.toOpen q'.toOpen := by
    intro n hn
    have hrender := congrArg (Option.map fun render (_ : Answers) => render) (h n hn)
    simpa only [find?_toOpen, Option.map_map, Function.comp_def] using hrender
  have halike := alike_of_sameChoice hsame (confined_toOpen q root)
  exact ((halike.returned _).1 (returns_toOpen q root)).unique (returns_toOpen q' root)

/-! ## Matchers that do not count -/

theorem find?_of_not_selects {before after : OpenRegistry} {m : OpenMatcher} {n : Mdast.Node}
    (h : m.selector.selects n = false) :
    find? (before ++ m :: after) n = find? (before ++ after) n := by
  simp [find?, List.find?_append, h]

/-- A matcher behind one that selects the node as well is not reached. -/
theorem find?_of_shadowed {before after : OpenRegistry} {m k : OpenMatcher} {n : Mdast.Node}
    (hk : k ∈ before) (h : k.selector.selects n = true) :
    find? (before ++ m :: after) n = find? (before ++ after) n := by
  -- Whichever comes first in front of it decides in both lists.
  have hfound : (List.find? (fun m => m.selector.selects n) before).isSome = true :=
    List.find?_isSome.2 ⟨k, hk, h⟩
  obtain ⟨k', hk'⟩ := Option.isSome_iff_exists.1 hfound
  rw [find?, find?, List.find?_append, List.find?_append, hk', Option.some_or, Option.some_or]

/-- A matcher that selects nothing in a document, or none but nodes that an earlier one selects
as well. -/
def Idle (root : Mdast.Node) (before : OpenRegistry) (m : OpenMatcher) : Prop :=
  ∀ n ∈ root.walk, m.selector.selects n = true → ∃ k ∈ before, k.selector.selects n = true

theorem sameChoice_of_idle {before after : OpenRegistry} {m : OpenMatcher}
    (h : Idle root before m) : SameChoice root (before ++ m :: after) (before ++ after) := by
  intro n hn
  by_cases hselects : m.selector.selects n = true
  · obtain ⟨k, hk, hfirst⟩ := h n hn hselects
    rw [find?_of_shadowed hk hfirst]
  · rw [find?_of_not_selects (Bool.eq_false_iff.2 hselects)]

/-- Only the renderers that come first for the nodes of a document count: registries that choose
the same ones render it alike, and a matcher that selects no node of it, or none that an earlier
one does not select, may stand in the registry or not. -/
theorem first_match_decides (hr : r.Confined root) :
    (∀ r', SameChoice root r r' → Alike root r r') ∧
    (∀ before after m, r = before ++ after → Idle root before m →
      Alike root r (before ++ m :: after)) ∧
    (∀ before after m, r = before ++ m :: after → Idle root before m →
      Alike root r (before ++ after)) ∧
    ∀ q q' : Registry,
      (∀ n ∈ root.walk, (q.find? n).map Matcher.render = (q'.find? n).map Matcher.render) →
        document q root = document q' root := by
  refine ⟨fun r' hsame => alike_of_sameChoice hsame hr, ?_, ?_, fun q q' => document_congr⟩
  · rintro before after m rfl hidle
    exact alike_of_sameChoice (sameChoice_of_idle hidle).symm hr
  · rintro before after m rfl hidle
    exact alike_of_sameChoice (sameChoice_of_idle hidle) hr

/-- Renderers that have nothing rendered but what their nodes refer to stay in the document. -/
theorem confined_of_referents (h : ∀ m ∈ r, ∀ (answers answers' : Answers) (s : Site),
    (∀ d, s.referent? = some d → answers d = answers' d) →
      m.render answers s = m.render answers' s) : r.Confined root := by
  intro n _ m hfind answers answers' hagree
  exact h m (List.mem_of_find?_eq_some hfind) answers answers' _
    fun d hd => hagree d (mem_walk_of_referent? hd)

/-- Renders in place of a reference what stands below its definition. -/
def annotate : OpenRenderer := fun answers s =>
  match s.referent? with
  | some d => (answers d).content.map fun ns => .node (.plain "aside" ns)
  | none => .ok (.nodes [])

theorem annotate_congr {answers answers' : Answers} {s : Site}
    (h : ∀ d, s.referent? = some d → answers d = answers' d) :
    annotate answers s = annotate answers' s := by
  rw [annotate, annotate]
  cases hreferent : s.referent? with
  | none => rfl
  | some d => simp only [h d hreferent]

/-- References are annotated, and cells are replaced. -/
def annotating : OpenRegistry :=
  [⟨.kind .linkReference, annotate⟩, ⟨.kind .tableCell, fun _ _ => .ok (.markup "<td>?</td>")⟩]

/-- A reference between inline tags and a table, with the definition behind them. -/
def annotated : Mdast.Node :=
  .ofKind .root
    [.ofKind .paragraph
      [.literal .html "<b>",
        .mk "linkReference" { Mdast.Fields.none with identifier := some "x" } [],
        .literal .html "</b>"],
      .ofKind .table [.ofKind .tableRow [.ofKind .tableCell [.text "1"]]],
      .mk "definition" { Mdast.Fields.none with identifier := some "X" }
        [.ofKind .strong [.text "note"]]]

/-- Selects nothing in the document. -/
def unused : OpenMatcher := ⟨.type "sidebar", fun _ s => .error (.renderer s.node.type "unused")⟩

/-- Comes too late for any cell. -/
def late : OpenMatcher := ⟨.kind .tableCell, fun _ _ => .ok (.nodes [])⟩

/-- Refuses every call. -/
def refuse : Answers := fun n =>
  .mk n none (.error (.renderer n.type "too deep")) (.error (.renderer n.type "too deep")) []

theorem annotating_decides :
    annotating.Confined annotated ∧ Idle annotated [] unused ∧ Idle annotated annotating late ∧
      Alike annotated annotating (unused :: annotating) ∧
      Alike annotated annotating (annotating ++ [late]) ∧
      (annotating.documentAt refuse 1 annotated).map View.Node.outerHtml =
        .ok ("<div><p><b><aside><strong>note</strong></aside></b></p>\n" ++
          "<table>\n<thead>\n<tr>\n<td>?</td>\n</tr>\n</thead>\n</table></div>") := by
  have hconfined : annotating.Confined annotated := by
    refine confined_of_referents fun m hm answers answers' s h => ?_
    rcases List.mem_cons.1 hm with rfl | hm
    · exact annotate_congr h
    · rw [List.mem_singleton.1 hm]
  have hunused : Idle annotated [] unused := by
    have hnone : ∀ n ∈ annotated.walk, unused.selector.selects n = false := by decide +kernel
    intro n hn hselects
    rw [hnone n hn] at hselects
    cases hselects
  have hlate : Idle annotated annotating late :=
    fun _ _ hselects => ⟨_, List.mem_cons_of_mem _ (List.mem_cons_self ..), hselects⟩
  have hinsert := (first_match_decides hconfined).2.1
  exact ⟨hconfined, hunused, hlate, hinsert [] annotating unused rfl hunused,
    hinsert annotating [] late (List.append_nil _).symm hlate, by decide +kernel⟩

end OpenRegistry

end Render

end PagePress
