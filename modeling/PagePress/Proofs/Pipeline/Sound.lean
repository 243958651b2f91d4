import PagePress.Pipeline.Page
import PagePress.Proofs.Markdown.Tree
import PagePress.Proofs.Pipeline.Schemas

/-!
# Sound states — what the stages for a page keep

* `Content.Sound` and `State.Sound` say that the trees in a state are those of documents, and that
  its status is one of a response;
* `State.Sound.check`: a sound state passes the schemas of this library;
* `Stage.KeepsSound` holds of every stage for a page.
-/

namespace PagePress

namespace Pipeline

open Fetch (FetchError Location Source)

/-! ## Sound content -/

/-- A section of a sound tree. -/
structure Section.Sound (s : Section) : Prop where
  children : ∀ n ∈ s.children, n.Sound
  position : ∀ x ∈ s.position, x.Conforms

/-- Content whose trees are those of documents. -/
structure Content.Sound (c : Content) : Prop where
  mdast : ∀ n ∈ c.mdast, n.Sound
  sections : ∀ s ∈ c.sections, s.Sound
  document : ∀ n ∈ c.document, n.isElement = true

/-- A state with sound content and the status of a response, if it has one. -/
structure State.Sound (s : State) : Prop where
  content : s.content.Sound
  status : ∀ n ∈ s.response.status, 100 ≤ n.toNat ∧ n.toNat ≤ 599

theorem Content.Sound.apart {c : Content} (h : c.Sound) : ContentApart c :=
  ⟨fun n hn => (h.mdast n hn).apart, fun s hs n hn => ((h.sections s hs).children n hn).apart⟩

theorem Content.Sound.conforms {c : Content} (h : c.Sound) : ContentConforms c :=
  ⟨fun n hn => (h.mdast n hn).conforms,
    fun s hs => ⟨fun n hn => ((h.sections s hs).children n hn).conforms,
      (h.sections s hs).position⟩,
    h.document⟩

/-- A sound state passes the schemas. -/
theorem State.Sound.check {s : State} (h : s.Sound) {ctx : Context} (hctx : ContextConforms ctx)
    (files : Files) (n : Nat) : SchemaSource.bundled.check files s ctx n = .ok () := by
  rw [SchemaSource.check_of_registry rfl]
  exact check_bundled h.content.apart ⟨h.content.conforms, h.status⟩ hctx.valid

theorem Content.sound_empty : Content.empty.Sound :=
  ⟨by simp [Content.empty], by simp [Content.empty], by simp [Content.empty]⟩

/-! ## Sections -/

theorem mem_of_mem_splitWhere {α : Type} {p : α → Bool} {xs : List α} :
    ∀ g ∈ splitWhere p xs, ∀ x ∈ g, x ∈ xs := by
  induction xs with
  | nil => simp [splitWhere]
  | cons y xs ih =>
      intro g hg x hx
      unfold splitWhere at hg
      split at hg
      · rcases List.mem_cons.1 hg with rfl | hg
        · cases hx
        · exact List.mem_cons_of_mem _ (ih g hg x hx)
      · -- The first element joins the group in front, if there is one.
        split at hg
        · rw [List.mem_singleton.1 hg, List.mem_singleton] at hx
          exact hx ▸ List.mem_cons_self ..
        · rename_i g' gs hsplit
          rcases List.mem_cons.1 hg with rfl | hg
          · rcases List.mem_cons.1 hx with rfl | hx
            · exact List.mem_cons_self ..
            · exact List.mem_cons_of_mem _ (ih g' (by simp [hsplit]) x hx)
          · exact List.mem_cons_of_mem _ (ih g (by simp [hsplit, hg]) x hx)

theorem sound_sectionOf {children : List Mdast.Node} (h : ∀ n ∈ children, n.Sound) :
    (sectionOf children).1.Sound := by
  refine ⟨h, ?_⟩
  exact Markdown.spanOf_conforms (fun n hn => h n (List.mem_of_mem_head? hn))
    (fun n hn => h n (List.mem_of_mem_getLast? hn))

/-- What is found out of a sound tree is sound. -/
theorem Content.Sound.withMetadata {c : Content} (h : c.Sound) {root : Mdast.Node}
    (hroot : root.Sound) : (c.withMetadata root).1.Sound := by
  refine ⟨h.mdast, ?_, h.document⟩
  intro s hs
  obtain ⟨x, hx, rfl⟩ := List.mem_map.1 hs
  obtain ⟨g, hg, rfl⟩ := List.mem_map.1 hx
  refine sound_sectionOf fun n hn => hroot.children n ?_
  exact mem_of_mem_splitWhere g (List.mem_filter.1 hg).1 n hn

theorem isElement_asElement (n : View.Node) : (asElement n).isElement = true := by
  unfold asElement
  split
  · assumption
  · rfl

theorem Content.Sound.withDocument {c : Content} (h : c.Sound) (n : View.Node) :
    (c.withDocument (asElement n)).Sound :=
  ⟨h.mdast, h.sections, by simpa [Content.withDocument] using isElement_asElement n⟩

/-! ## Stages that keep states sound -/

/-- The stage leaves a sound state behind a sound one. -/
def Stage.KeepsSound (stage : Stage) : Prop :=
  ∀ (ctx : Context) (s : State), s.Sound → (stage.run ctx s).noted.Sound

/-- What is sound does not depend on the error, the request and the body of the response. -/
theorem State.Sound.of_eq {s t : State} (h : s.Sound) (hcontent : t.content = s.content)
    (hstatus : t.response.status = s.response.status) : t.Sound :=
  ⟨hcontent ▸ h.content, hstatus ▸ h.status⟩

theorem State.Sound.withContent {s t : State} (h : s.Sound) (hcontent : t.content.Sound)
    (hstatus : t.response.status = s.response.status) : t.Sound :=
  ⟨hcontent, hstatus ▸ h.status⟩

theorem keepsSound_adaptRequest : adaptRequest.KeepsSound :=
  fun _ _ h => h.of_eq rfl rfl

theorem fetchStatus_mem (e : FetchError) : e.status ∈ [400, 404, 502] := by
  cases e <;> simp [FetchError.status]

theorem sound_withStatusOf {s : State} (h : s.Sound) (e : FetchError) :
    (s.withStatusOf e).Sound := by
  refine ⟨h.content, ?_⟩
  intro n hn
  obtain rfl : e.status = n := by simpa [State.withStatusOf, State.mapResponse] using hn
  have hstatuses : ∀ m ∈ [(400 : UInt16), 404, 502], 100 ≤ m.toNat ∧ m.toNat ≤ 599 := by simp
  exact hstatuses _ (fetchStatus_mem e)

theorem keepsSound_fetchMarkdown (source : Source) : (fetchMarkdown source).KeepsSound := by
  intro ctx s h
  unfold fetchMarkdown
  dsimp only
  split
  · rename_i l _
    unfold fetchAt
    dsimp only
    split
    · exact h.withContent ⟨h.content.mdast, h.content.sections, h.content.document⟩ rfl
    · rename_i e _
      exact (sound_withStatusOf h e).of_eq rfl rfl
  · rename_i e _
    exact (sound_withStatusOf h e).of_eq rfl rfl

theorem keepsSound_parseMarkdown : parseMarkdown.KeepsSound := by
  intro ctx s h
  unfold parseMarkdown
  dsimp only
  split
  · exact h
  · rename_i body _
    refine h.withContent ⟨?_, h.content.sections, h.content.document⟩ rfl
    intro n hn
    cases hn
    exact Markdown.parse_sound body

theorem keepsSound_getMetadata : getMetadata.KeepsSound := by
  intro ctx s h
  unfold getMetadata
  dsimp only
  split
  · exact h
  · rename_i root hroot
    exact h.withContent (h.content.withMetadata (h.content.mdast root hroot)) rfl

theorem keepsSound_makeHtml (registry : Render.Registry) : (makeHtml registry).KeepsSound := by
  intro ctx s h
  unfold makeHtml
  dsimp only
  split
  · exact h
  · split
    · rename_i n _
      exact h.withContent (h.content.withDocument n) rfl
    · exact h.of_eq rfl rfl

theorem keepsSound_emitHtml : emitHtml.KeepsSound := by
  intro ctx s h
  unfold emitHtml Stage.pure
  dsimp only
  split
  · exact h.of_eq rfl rfl
  · exact h

theorem keepsSound_setContentType (type : String) : (setContentType type).KeepsSound := by
  intro ctx s h
  refine h.of_eq rfl ?_
  unfold setContentType Stage.pure Response.defaultHeader
  dsimp only [Outcome.completed, Outcome.noted, State.mapResponse]
  split <;> rfl

theorem keepsSound_adaptResponse : adaptResponse.KeepsSound := by
  intro ctx s h
  unfold adaptResponse
  dsimp only
  split
  · -- Without an error, a status that is there is kept.
    refine ⟨h.content, ?_⟩
    intro n hn
    cases hstatus : s.response.status with
    | none =>
        obtain rfl : successStatus = n := by
          simpa [Outcome.completed, Outcome.noted, State.mapResponse, hstatus] using hn
        decide
    | some m =>
        obtain rfl : m = n := by
          simpa [Outcome.completed, Outcome.noted, State.mapResponse, hstatus] using hn
        exact h.status m hstatus
  · -- With an error, only the status of an error is kept.
    refine ⟨h.content, ?_⟩
    intro n hn
    cases herror : s.response.isError with
    | true =>
        refine h.status n ?_
        simpa [Outcome.completed, Outcome.noted, Response.toError, herror] using hn
    | false =>
        obtain rfl : failureStatus = n := by
          simpa [Outcome.completed, Outcome.noted, Response.toError, herror] using hn
        decide

end Pipeline

end PagePress
