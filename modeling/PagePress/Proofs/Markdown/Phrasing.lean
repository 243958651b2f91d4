import Mathlib.Data.List.Chain
import Mathlib.Data.List.Forall2
import PagePress.Markdown.Tree

/-!
# Phrasing — which nodes get a paragraph around them

A list of children falls into its longest runs of phrasing nodes and the nodes in between.  Wrapping
reads it with the run at hand on the side, and has to close this run in front of every other node
and at the end of the list.

* `Segment` is a run of phrasing nodes or another node; `SegmentsOf` says that segments make up a
  list and that no two runs meet;
* `segmentsOf_iff`: there is one way to cut a list into such segments;
* `Segment.Becomes` says what a segment becomes: a run one paragraph, and another node itself;
* `wrapPhrasing_maximal`: wrapping does this to every segment, and nothing is left to wrap.
-/

namespace PagePress

namespace Markdown

open Mdast (Node Kind Fields)

/-! ## Types -/

/-- The types of phrasing nodes. -/
def phrasingTypes : List String :=
  ["text", "emphasis", "strong", "delete", "inlineCode", "break", "link", "image", "html",
    "footnoteReference"]

theorem isPhrasing_iff {n : Node} : isPhrasing n = true ↔ n.type ∈ phrasingTypes := by
  have hkind : isPhrasing n = true ↔ ∃ k, n.kind? = some k ∧ k.name ∈ phrasingTypes := by
    unfold isPhrasing
    cases n.kind? with
    | none => simp
    | some k => cases k <;> simp [Kind.name, phrasingTypes]
  rw [hkind]
  constructor
  · rintro ⟨k, hk, hname⟩
    have htype : k.name = n.type := by simpa using List.find?_some hk
    rwa [← htype]
  · intro htype
    have hfound : ∀ t ∈ phrasingTypes, ∃ k, Kind.ofName? t = some k ∧ k.name = t := by decide
    obtain ⟨k, hk, hname⟩ := hfound n.type htype
    exact ⟨k, hk, hname.symm ▸ htype⟩

/-! ## Segments -/

/-- A segment of a list of nodes. -/
inductive Segment where
  /-- A node that is no phrasing. -/
  | block (n : Node) (other : n.type ∉ phrasingTypes)
  /-- Phrasing nodes, a first one and those behind it. -/
  | run (n : Node) (ns : List Node) (phrasing : ∀ m ∈ n :: ns, m.type ∈ phrasingTypes)

namespace Segment

/-- The nodes of a segment. -/
def nodes : Segment → List Node
  | block n _ => [n]
  | run n ns _ => n :: ns

/-- Not both of two segments are runs. -/
def Apart : Segment → Segment → Prop
  | run .., run .. => False
  | _, _ => True

/-- The segment starts with a node in front of it, or the node is a segment of its own. -/
def cons (n : Node) (segments : List Segment) : List Segment :=
  if h : n.type ∈ phrasingTypes then
    match segments with
    | run m ms hms :: segments => run n (m :: ms) (List.forall_mem_cons.2 ⟨h, hms⟩) :: segments
    | segments => run n [] (by simpa using h) :: segments
  else block n h :: segments

end Segment

/-- Segments make up a list, and its runs are as long as they can be: no two of them meet. -/
structure SegmentsOf (ns : List Node) (segments : List Segment) : Prop where
  nodes : segments.flatMap Segment.nodes = ns
  maximal : segments.IsChain Segment.Apart

/-- The segments of a list. -/
def segmentsOf (ns : List Node) : List Segment := ns.foldr Segment.cons []

/-- A node goes in front of what stands first. -/
theorem SegmentsOf.cons {n : Node} {ns : List Node} {segments : List Segment}
    (h : SegmentsOf ns segments) : SegmentsOf (n :: ns) (Segment.cons n segments) := by
  rw [Segment.cons]
  split
  · split
    · rename_i m ms hms rest
      -- The run grows at its start, and nothing changes behind it.
      refine ⟨?_, ?_⟩
      · exact congrArg (n :: ·) h.nodes
      · rcases List.isChain_cons.1 h.maximal with ⟨hnext, hrest⟩
        refine hrest.cons fun q hq => ?_
        have hapart := hnext q hq
        cases q with
        | block => trivial
        | run => exact hapart
    · rename_i hother
      refine ⟨congrArg (n :: ·) h.nodes, h.maximal.cons fun q hq => ?_⟩
      cases q with
      | block => trivial
      | run m ms hms =>
          obtain ⟨rest, rfl⟩ := List.head?_eq_some_iff.1 hq
          exact absurd rfl (hother m ms hms rest)
  · exact ⟨congrArg (n :: ·) h.nodes, h.maximal.cons fun q _ => trivial⟩

theorem segmentsOf_segments (ns : List Node) : SegmentsOf ns (segmentsOf ns) := by
  induction ns with
  | nil => exact ⟨rfl, .nil⟩
  | cons n ns ih => exact ih.cons

/-- A run in front of segments that do not start with one is read as a segment. -/
theorem foldr_cons_run {segments : List Segment}
    (hsegments : ∀ q ∈ segments.head?, ∃ n h, q = .block n h)
    {n : Node} {ns : List Node} (h : ∀ m ∈ n :: ns, m.type ∈ phrasingTypes) :
    (n :: ns).foldr Segment.cons segments = .run n ns h :: segments := by
  induction ns generalizing n with
  | nil =>
      have hn : n.type ∈ phrasingTypes := h n (List.mem_singleton_self n)
      rw [List.foldr_cons, List.foldr_nil, Segment.cons, dif_pos hn]
      split
      · rename_i m ms hms rest
        obtain ⟨b, hb, heq⟩ := hsegments _ rfl
        cases heq
      · rfl
  | cons m ns ih =>
      have hn : n.type ∈ phrasingTypes := h n List.mem_cons_self
      have hrest : ∀ k ∈ m :: ns, k.type ∈ phrasingTypes :=
        fun k hk => h k (List.mem_cons_of_mem n hk)
      rw [List.foldr_cons, ih hrest, Segment.cons, dif_pos hn]

/-- What segments are made of is cut into these segments. -/
theorem segmentsOf_flatMap {segments : List Segment} (h : segments.IsChain Segment.Apart) :
    segmentsOf (segments.flatMap Segment.nodes) = segments := by
  induction segments with
  | nil => rfl
  | cons p segments ih =>
      rcases List.isChain_cons.1 h with ⟨hnext, hrest⟩
      have hsegments : (segments.flatMap Segment.nodes).foldr Segment.cons [] = segments := ih hrest
      rw [List.flatMap_cons, segmentsOf, List.foldr_append, hsegments]
      cases p with
      | block n hn => exact dif_neg hn
      | run n ns hns =>
          refine foldr_cons_run (fun q hq => ?_) hns
          cases q with
          | block m hm => exact ⟨m, hm, rfl⟩
          | run => exact (hnext _ hq).elim

/-- There is one way to cut a list into runs that are as long as they can be and other nodes. -/
theorem segmentsOf_iff {ns : List Node} {segments : List Segment} :
    SegmentsOf ns segments ↔ segments = segmentsOf ns := by
  constructor
  · intro h
    rw [← h.nodes, segmentsOf_flatMap h.maximal]
  · rintro rfl
    exact segmentsOf_segments ns

/-! ## What segments become -/

/-- A paragraph around the nodes of a run, from the start of the first to the end of the last if
both have a position, and without any other field. -/
structure Encloses (run : List Node) (p : Node) : Prop where
  type : p.type = "paragraph"
  children : p.children = run
  position : ∀ q, p.position = some q ↔
    ∃ a ∈ run.head?.bind Node.position, ∃ b ∈ run.getLast?.bind Node.position,
      q = ⟨a.start, b.stop, none⟩
  bare : { p.fields with position := none } = Fields.none

/-- What a segment becomes. -/
inductive Segment.Becomes : Segment → Node → Prop where
  | block (n : Node) (h : n.type ∉ phrasingTypes) : Becomes (.block n h) n
  | run {n : Node} {ns : List Node} {p : Node} (h : ∀ m ∈ n :: ns, m.type ∈ phrasingTypes) :
      Encloses (n :: ns) p → Becomes (.run n ns h) p

/-- What stands for a segment, without the paragraph that is new. -/
def Segment.unwrap : Segment → Node → List Node
  | block .., n => [n]
  | run .., p => p.children

theorem encloses_paragraphOf (n : Node) (ns : List Node) :
    ∃ p, paragraphOf (n :: ns) = [p] ∧ Encloses (n :: ns) p := by
  refine ⟨_, rfl, rfl, rfl, fun q => ?_, rfl⟩
  change spanOf (n :: ns).head? (n :: ns).getLast? = some q ↔ _
  simp only [spanOf, Option.bind_eq_bind, Option.bind_eq_some_iff, Option.mem_def,
    Mdast.Position.span, Option.some.injEq]
  constructor
  · rintro ⟨a, ⟨m, hm, ha⟩, b, ⟨k, hk, hb⟩, rfl⟩
    exact ⟨a, ⟨m, hm, ha⟩, b, ⟨k, hk, hb⟩, rfl⟩
  · rintro ⟨a, ⟨m, hm, ha⟩, b, ⟨k, hk, hb⟩, rfl⟩
    exact ⟨a, ⟨m, hm, ha⟩, b, ⟨k, hk, hb⟩, rfl⟩

theorem Segment.Becomes.other {segment : Segment} {n : Node} (h : segment.Becomes n) :
    n.type ∉ phrasingTypes := by
  cases h with
  | block _ hn => exact hn
  | run _ hp =>
      rw [hp.type]
      decide

theorem Segment.Becomes.unwrap_eq {segment : Segment} {n : Node} (h : segment.Becomes n) :
    segment.unwrap n = segment.nodes := by
  cases h with
  | block => rfl
  | run _ hp => exact hp.children

/-! ## Wrapping -/

/-- Phrasing nodes are added to the run at hand. -/
theorem wrapFrom_run {ms : List Node} (h : ∀ m ∈ ms, m.type ∈ phrasingTypes) (ns : List Node) :
    ∀ run, wrapFrom run (ms ++ ns) = wrapFrom (ms.reverse ++ run) ns := by
  induction ms with
  | nil => exact fun _ => rfl
  | cons m ms ih =>
      intro run
      rcases List.forall_mem_cons.1 h with ⟨hm, hms⟩
      rw [List.cons_append, wrapFrom, if_pos (isPhrasing_iff.2 hm), ih hms, List.reverse_cons,
        List.append_assoc, List.singleton_append]

/-- The run at hand is closed where no phrasing node follows. -/
theorem wrapFrom_stop {ns : List Node} (h : ∀ n ∈ ns.head?, n.type ∉ phrasingTypes)
    (run : List Node) : wrapFrom run ns = paragraphOf run.reverse ++ wrapPhrasing ns := by
  cases ns with
  | nil => exact (List.append_nil _).symm
  | cons n ns =>
      have hn : ¬ isPhrasing n = true := mt isPhrasing_iff.1 (h n rfl)
      rw [wrapPhrasing, wrapFrom, wrapFrom, if_neg hn, if_neg hn]
      rfl

theorem wrapPhrasing_block {n : Node} (h : n.type ∉ phrasingTypes) (ns : List Node) :
    wrapPhrasing (n :: ns) = n :: wrapPhrasing ns := by
  rw [wrapPhrasing, wrapFrom, if_neg (mt isPhrasing_iff.1 h)]
  rfl

/-- Segment by segment, wrapping gives what the segments become. -/
theorem becomes_wrapPhrasing {segments : List Segment} (h : segments.IsChain Segment.Apart) :
    List.Forall₂ Segment.Becomes segments (wrapPhrasing (segments.flatMap Segment.nodes)) := by
  induction segments with
  | nil => exact .nil
  | cons segment segments ih =>
      rcases List.isChain_cons.1 h with ⟨hnext, hrest⟩
      cases segment with
      | block n hn =>
          have hwrap : wrapPhrasing ((Segment.block n hn :: segments).flatMap Segment.nodes) =
              n :: wrapPhrasing (segments.flatMap Segment.nodes) := wrapPhrasing_block hn _
          rw [hwrap]
          exact .cons (.block n hn) (ih hrest)
      | run n ns hns =>
          -- The segment behind the run is none itself, so that the run is closed there.
          have hstop : ∀ m ∈ (segments.flatMap Segment.nodes).head?, m.type ∉ phrasingTypes := by
            intro m hm
            cases segments with
            | nil => cases hm
            | cons q segments =>
                cases q with
                | block k hk =>
                    cases hm
                    exact hk
                | run => exact (hnext _ rfl).elim
          obtain ⟨p, hparagraph, hp⟩ := encloses_paragraphOf n ns
          have hwrap : wrapPhrasing ((Segment.run n ns hns :: segments).flatMap Segment.nodes) =
              p :: wrapPhrasing (segments.flatMap Segment.nodes) := by
            rw [List.flatMap_cons, wrapPhrasing, Segment.nodes, wrapFrom_run hns,
              wrapFrom_stop hstop, List.append_nil, List.reverse_reverse, hparagraph,
              List.singleton_append]
          rw [hwrap]
          exact .cons (.run hns hp) (ih hrest)

/-- Where nothing is phrasing, nothing is wrapped. -/
theorem wrapPhrasing_eq_self {ns : List Node} (h : ∀ n ∈ ns, n.type ∉ phrasingTypes) :
    wrapPhrasing ns = ns := by
  induction ns with
  | nil => rfl
  | cons n ns ih =>
      rcases List.forall_mem_cons.1 h with ⟨hn, hns⟩
      rw [wrapPhrasing_block hn, ih hns]

theorem unwrap_of_becomes {segments : List Segment} {ns : List Node}
    (h : List.Forall₂ Segment.Becomes segments ns) :
    (List.zipWith Segment.unwrap segments ns).flatten = segments.flatMap Segment.nodes := by
  induction h with
  | nil => rfl
  | cons hsegment _ ih =>
      rw [List.zipWith_cons_cons, List.flatten_cons, List.flatMap_cons, hsegment.unwrap_eq, ih]

theorem other_of_becomes {segments : List Segment} {ns : List Node}
    (h : List.Forall₂ Segment.Becomes segments ns) : ∀ n ∈ ns, n.type ∉ phrasingTypes := by
  induction h with
  | nil => simp
  | cons hsegment _ ih => exact List.forall_mem_cons.2 ⟨hsegment.other, ih⟩

/-- A list is cut in one way into runs of phrasing nodes that are as long as they can be and other
nodes.  Wrapping makes one paragraph of each run and keeps every other node in its place.  Taking
the new paragraphs away gives the list back, no phrasing node is left, and wrapping once more
changes nothing. -/
theorem wrapPhrasing_maximal (ns : List Node) :
    ∃ segments, (∀ others, SegmentsOf ns others ↔ others = segments) ∧
      List.Forall₂ Segment.Becomes segments (wrapPhrasing ns) ∧
      (List.zipWith Segment.unwrap segments (wrapPhrasing ns)).flatten = ns ∧
      (∀ n ∈ wrapPhrasing ns, n.type ∉ phrasingTypes) ∧
      wrapPhrasing (wrapPhrasing ns) = wrapPhrasing ns := by
  have hsegments := segmentsOf_segments ns
  have hbecomes : List.Forall₂ Segment.Becomes (segmentsOf ns) (wrapPhrasing ns) := by
    have hwrap := becomes_wrapPhrasing hsegments.maximal
    rwa [hsegments.nodes] at hwrap
  have hother := other_of_becomes hbecomes
  refine ⟨segmentsOf ns, fun others => segmentsOf_iff, hbecomes, ?_, hother,
    wrapPhrasing_eq_self hother⟩
  calc (List.zipWith Segment.unwrap (segmentsOf ns) (wrapPhrasing ns)).flatten
      = (segmentsOf ns).flatMap Segment.nodes := unwrap_of_becomes hbecomes
    _ = ns := hsegments.nodes

end Markdown

end PagePress
