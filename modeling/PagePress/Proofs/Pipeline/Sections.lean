import Mathlib.Data.List.DropRight
import PagePress.Proofs.Pipeline.Sound

/-!
# Sections — a document between its thematic breaks

The sections of a document partition what stands at its top level, and what is found section by
section is what a search through the whole document finds.

* `flatten_splitWhere` and `samePart_splitWhere_iff`: cutting a list keeps its other members in
  their order, and parts two of them exactly if a cut lies between them;
* `findSome?_eq_flatten` and its like: searching the parts one after the other is searching the
  list;
* `isProse_iff`: which paragraphs count as such;
* `getMetadata_surveys` says what the stage notes of a document.
-/

namespace PagePress

namespace Pipeline

open Mdast (Node)

/-! ## Cutting a list -/

section

variable {α : Type}

/-- Two places of a list of parts, counted through all of them, lie in one part. -/
def SamePart (parts : List (List α)) (i j : Nat) : Prop :=
  ∃ before part after, parts = before ++ part :: after ∧
    ∀ k ∈ [i, j], before.flatten.length ≤ k ∧ k < (before.flatten ++ part).length

variable {p : α → Bool}

theorem splitWhere_ne_nil (xs : List α) : splitWhere p xs ≠ [] := by
  cases xs with
  | nil => exact List.cons_ne_nil _ _
  | cons x xs =>
      rw [splitWhere]
      split
      · exact List.cons_ne_nil _ _
      · split <;> exact List.cons_ne_nil _ _

theorem splitWhere_cons_of_pos {x : α} (hx : p x = true) (xs : List α) :
    splitWhere p (x :: xs) = [] :: splitWhere p xs := by
  rw [splitWhere, if_pos hx]

/-- A member that is no cut joins the part behind it. -/
theorem splitWhere_cons_of_neg {x : α} (hx : p x = false) {xs g : List α} {gs : List (List α)}
    (h : splitWhere p xs = g :: gs) : splitWhere p (x :: xs) = (x :: g) :: gs := by
  rw [splitWhere, if_neg (by simp [hx]), h]

/-- Cutting drops the cuts and nothing else. -/
theorem flatten_splitWhere (xs : List α) :
    (splitWhere p xs).flatten = xs.filter fun x => !p x := by
  induction xs with
  | nil => rfl
  | cons x xs ih =>
      cases hx : p x with
      | true =>
          rw [splitWhere_cons_of_pos hx, List.filter_cons_of_neg (by simp [hx]), ← ih]
          rfl
      | false =>
          obtain ⟨g, gs, hsplit⟩ := List.exists_cons_of_ne_nil (splitWhere_ne_nil (p := p) xs)
          rw [splitWhere_cons_of_neg hx hsplit, List.filter_cons_of_pos (by simp [hx]), ← ih,
            hsplit]
          rfl

/-- What stands before a cut is cut apart from what stands behind it. -/
theorem splitWhere_append_cons {b : α} (hb : p b = true) (xs ys : List α) :
    splitWhere p (xs ++ b :: ys) = splitWhere p xs ++ splitWhere p ys := by
  induction xs with
  | nil => exact splitWhere_cons_of_pos hb ys
  | cons x xs ih =>
      cases hx : p x with
      | true =>
          rw [List.cons_append, splitWhere_cons_of_pos hx, splitWhere_cons_of_pos hx, ih]
          rfl
      | false =>
          obtain ⟨g, gs, hsplit⟩ := List.exists_cons_of_ne_nil (splitWhere_ne_nil (p := p) xs)
          rw [hsplit, List.cons_append] at ih
          rw [List.cons_append, splitWhere_cons_of_neg hx ih, splitWhere_cons_of_neg hx hsplit]
          rfl

/-- Members without a cut among them stay together. -/
theorem splitWhere_append_uncut {ms : List α} (hms : ∀ m ∈ ms, p m = false) (zs : List α) :
    ∃ g gs, splitWhere p (ms ++ zs) = (ms ++ g) :: gs := by
  induction ms with
  | nil => exact List.exists_cons_of_ne_nil (splitWhere_ne_nil zs)
  | cons m ms ih =>
      rw [List.forall_mem_cons] at hms
      obtain ⟨g, gs, hsplit⟩ := ih hms.2
      exact ⟨g, gs, splitWhere_cons_of_neg hms.1 hsplit⟩

/-- They stand in one part, behind what is left of the members before them. -/
theorem splitWhere_around {ms : List α} (hms : ∀ m ∈ ms, p m = false) (xs zs : List α) :
    ∃ before g h after, splitWhere p (xs ++ (ms ++ zs)) = before ++ (g ++ ms ++ h) :: after ∧
      before.flatten ++ g = xs.filter fun x => !p x := by
  induction xs with
  | nil =>
      obtain ⟨h, after, hsplit⟩ := splitWhere_append_uncut hms zs
      exact ⟨[], [], h, after, hsplit, rfl⟩
  | cons x xs ih =>
      obtain ⟨before, g, h, after, hsplit, hkept⟩ := ih
      cases hx : p x with
      | true =>
          refine ⟨[] :: before, g, h, after, ?_, ?_⟩
          · rw [List.cons_append, splitWhere_cons_of_pos hx, hsplit]
            rfl
          · rw [List.filter_cons_of_neg (by simp [hx]), ← hkept]
            rfl
      | false =>
          rw [List.filter_cons_of_pos (by simp [hx]), ← hkept]
          -- The member joins the first part, be it the one in question or one before it.
          cases before with
          | nil => exact ⟨[], x :: g, h, after, splitWhere_cons_of_neg hx hsplit, rfl⟩
          | cons b before =>
              exact ⟨(x :: b) :: before, g, h, after, splitWhere_cons_of_neg hx hsplit, rfl⟩

/-- Two members that are no cuts stand in one part exactly if no cut lies between them.  The
places of the two are those among the members that are no cuts. -/
theorem samePart_splitWhere_iff {xs ms zs : List α} {x y : α} (hx : p x = false)
    (hy : p y = false) :
    SamePart ((splitWhere p (xs ++ x :: ms ++ y :: zs)).filter fun g => !g.isEmpty)
        (xs.filter fun x => !p x).length ((xs ++ x :: ms).filter fun x => !p x).length ↔
      ∀ m ∈ ms, p m = false := by
  have hcons : ∀ ns : List α, ((x :: ns).filter fun x => !p x).length =
      (ns.filter fun x => !p x).length + 1 := by
    intro ns
    rw [List.filter_cons_of_pos (by simp [hx]), List.length_cons]
  constructor
  · rintro ⟨before, part, after, hparts, hplaces⟩ m hm
    cases hcut : p m with
    | false => rfl
    | true =>
        exfalso
        obtain ⟨ms₁, ms₂, rfl⟩ := List.append_of_mem hm
        have hlist : xs ++ x :: (ms₁ ++ m :: ms₂) ++ y :: zs =
            (xs ++ x :: ms₁) ++ m :: (ms₂ ++ y :: zs) := by simp
        rw [hlist, splitWhere_append_cons hcut, List.filter_append] at hparts
        -- What stands before the cut: `x` belongs to it and `y` does not.
        have hfront := congrArg List.length
          (List.flatten_filter_not_isEmpty.trans (flatten_splitWhere (p := p) (xs ++ x :: ms₁)))
        rw [List.filter_append, List.length_append, hcons] at hfront
        simp only [List.forall_mem_cons, List.filter_append, List.length_append, hcons] at hplaces
        rcases List.append_eq_append_iff.1 hparts with ⟨as, rfl, -⟩ | ⟨bs, hbs, hpart⟩
        · rw [List.flatten_append, List.length_append] at hplaces
          omega
        · cases bs with
          | nil =>
              rw [hbs, List.append_nil] at hfront
              omega
          | cons b bs =>
              obtain ⟨rfl, -⟩ := List.cons.inj hpart
              rw [hbs, List.flatten_append, List.flatten_cons, List.length_append,
                List.length_append] at hfront
              omega
  · intro hms
    have huncut : ∀ m ∈ x :: ms ++ [y], p m = false := by
      rw [List.forall_mem_append, List.forall_mem_cons]
      exact ⟨⟨hx, hms⟩, by simpa using hy⟩
    obtain ⟨before, g, h, after, hsplit, hkept⟩ := splitWhere_around huncut xs zs
    have hlist : xs ++ x :: ms ++ y :: zs = xs ++ (x :: ms ++ [y] ++ zs) := by simp
    have hall : ((x :: ms).filter fun x => !p x).length = ms.length + 1 := by
      rw [hcons, List.filter_eq_self.2 fun m hm => by simp [hms m hm]]
    refine ⟨before.filter fun g => !g.isEmpty, g ++ (x :: ms ++ [y]) ++ h,
      after.filter fun g => !g.isEmpty, ?_, ?_⟩
    · rw [hlist, hsplit, List.filter_append, List.filter_cons_of_pos (by simp)]
    · rw [List.flatten_filter_not_isEmpty, List.filter_append, ← hkept]
      simp only [List.forall_mem_cons, List.length_append, hall, List.length_cons,
        List.length_nil]
      refine ⟨by omega, by omega, nofun⟩

end

/-! ## Searching -/

/-- A search that goes on where it finds nothing finds in the parts of a list, one after the other,
what it finds in the list. -/
theorem findSome?_eq_flatten {α β : Type} {f : List α → Option β} {gs : List (List α)}
    (hnil : f [] = none) (happend : ∀ g ∈ gs, ∀ xs, f (g ++ xs) = (f g).or (f xs)) :
    gs.findSome? f = f gs.flatten := by
  induction gs with
  | nil => exact hnil.symm
  | cons g gs ih =>
      rw [List.forall_mem_cons] at happend
      rw [List.findSome?_cons, List.flatten_cons, happend.1, ih happend.2]
      cases f g <;> rfl

theorem titleOf_append (xs ys : List Node) :
    titleOf (xs ++ ys) = (titleOf xs).or (titleOf ys) := by
  rw [titleOf, List.find?_append, Option.map_or]
  rfl

/-- Nothing is left of a text without the blanks at its ends exactly if there are only blanks. -/
theorem trim_eq_empty_iff (s : String) : Text.trim s = "" ↔ Text.allBlank s = true := by
  have hlist : Text.trim s = "" ↔
      Text.trimEnd Text.isBlank (Text.trimStart Text.isBlank s.toList) = [] :=
    ⟨fun h => String.ofList_injective h, fun h => congrArg String.ofList h⟩
  rw [hlist, Text.trimEnd, Text.trimStart, List.reverse_eq_nil_iff, List.dropWhile_eq_nil_iff]
  simp only [List.mem_reverse]
  rw [← List.dropWhile_eq_nil_iff, List.dropWhile_idempotent, List.dropWhile_eq_nil_iff,
    Text.allBlank, List.all_eq_true]

/-- The introduction is the text of the first paragraph that counts as one and has a text. -/
theorem introOf_eq (ns : List Node) :
    introOf ns = (ns.find? fun n => isProse n && !Text.allBlank n.textContent).map
      fun n => Text.trim n.textContent := by
  rw [introOf, List.find?_map, List.find?_filter]
  have htest : ∀ n, decide (isProse n = true ∧ decide (Text.trim n.textContent ≠ "") = true) =
      (isProse n && !Text.allBlank n.textContent) := by
    intro n
    simp [trim_eq_empty_iff]
  simp only [Function.comp_def, htest]

theorem introOf_append (xs ys : List Node) :
    introOf (xs ++ ys) = (introOf xs).or (introOf ys) := by
  rw [introOf_eq, introOf_eq, introOf_eq, List.find?_append, Option.map_or]

/-- Every image in a list of nodes has an address. -/
def ImagesLocated (ns : List Node) : Prop :=
  ∀ n ∈ Node.walkAll ns, n.is .image = true → n.fields.url.isSome = true

/-- The image is the address of the first image in document order. -/
theorem imageOf_eq (ns : List Node) :
    imageOf ns = ((Node.walkAll ns).find? fun n => n.is .image).bind fun n => n.fields.url := by
  rw [imageOf, Node.walkAll_eq_flatMap]

/-- Where images have addresses, the search for one ends at the first image. -/
theorem imageOf_append {xs : List Node} (h : ImagesLocated xs) (ys : List Node) :
    imageOf (xs ++ ys) = (imageOf xs).or (imageOf ys) := by
  rw [imageOf_eq, imageOf_eq, imageOf_eq, Node.walkAll_append, List.find?_append]
  cases hfind : (Node.walkAll xs).find? fun n => n.is .image with
  | none => rfl
  | some n =>
      obtain ⟨url, hurl⟩ := Option.isSome_iff_exists.1
        (h n (List.mem_of_find?_eq_some hfind) (List.find?_some hfind :))
      simp only [Option.some_or, Option.bind_some, hurl]

/-! ## Paragraphs -/

theorem distinct_cons (t : String) (ts : List String) :
    distinct (t :: ts) = insertText t (distinct ts) := rfl

theorem mem_insertText {t u : String} (us : List String) :
    t ∈ insertText u us ↔ t = u ∨ t ∈ us := by
  induction us with
  | nil => rw [insertText, List.mem_singleton]; simp
  | cons v us ih =>
      rw [insertText]
      split
      · exact List.mem_cons
      · split
        · next heq => subst heq; simp
        · rw [List.mem_cons, ih, List.mem_cons]
          exact or_left_comm

theorem mem_distinct {t : String} (ts : List String) : t ∈ distinct ts ↔ t ∈ ts := by
  induction ts with
  | nil => exact Iff.rfl
  | cons u us ih =>
      simp only [distinct_cons, mem_insertText, ih, List.mem_cons]

/-- A list comes to one text exactly if it has no other member, and has this one. -/
theorem distinct_eq_singleton_iff {t : String} (ts : List String) :
    distinct ts = [t] ↔ ts ≠ [] ∧ ∀ u ∈ ts, u = t := by
  constructor
  · intro h
    have hmem : ∀ u, u ∈ ts ↔ u = t := fun u => by rw [← mem_distinct, h, List.mem_singleton]
    exact ⟨List.ne_nil_of_mem ((hmem t).2 rfl), fun u hu => (hmem u).1 hu⟩
  · rintro ⟨hne, hall⟩
    induction ts with
    | nil => exact absurd rfl hne
    | cons u us ih =>
        rw [List.forall_mem_cons] at hall
        obtain ⟨rfl, hus⟩ := hall
        rw [distinct_cons]
        cases us with
        | nil => rfl
        | cons v us =>
            rw [ih (List.cons_ne_nil _ _) hus, insertText, if_neg (String.lt_irrefl u), if_pos rfl]

/-- What a node holds, blank texts apart, is of one type. -/
structure HoldsOnly (n : Node) (type : String) : Prop where
  exists_mem : ∃ c ∈ n.children, isBlankText c = false
  eq_of_mem : ∀ c ∈ n.children, isBlankText c = false → c.type = type

theorem holdsOnly_iff {n : Node} {type : String} : HoldsOnly n type ↔
    distinct ((n.children.filter fun c => !isBlankText c).map Node.type) = [type] := by
  rw [distinct_eq_singleton_iff]
  constructor
  · rintro ⟨⟨c, hc, hblank⟩, hall⟩
    refine ⟨List.ne_nil_of_mem (List.mem_map_of_mem
      (List.mem_filter.2 ⟨hc, by simp [hblank]⟩)), ?_⟩
    rw [List.forall_mem_map]
    intro d hd
    exact hall d (List.mem_filter.1 hd).1 (by simpa using (List.mem_filter.1 hd).2)
  · rintro ⟨hne, hall⟩
    rw [List.forall_mem_map] at hall
    obtain ⟨c, hc⟩ := List.exists_mem_of_ne_nil _ (mt List.map_eq_nil_iff.2 hne)
    exact ⟨⟨c, (List.mem_filter.1 hc).1, by simpa using (List.mem_filter.1 hc).2⟩,
      fun d hd hblank => hall d (List.mem_filter.2 ⟨hd, by simp [hblank]⟩)⟩

/-- A paragraph counts as one unless all that it holds is of one type of its own, such as an image
or a link. -/
theorem isProse_iff (n : Node) : isProse n = true ↔
    n.is .paragraph = true ∧ ∀ type, HoldsOnly n type →
      type = Mdast.Kind.text.name ∨ type = Mdast.Kind.paragraph.name := by
  rw [isProse, Bool.and_eq_true, decide_eq_true_iff]
  refine and_congr_right fun hparagraph => ?_
  have htype : n.type = Mdast.Kind.paragraph.name := by simpa [Node.is] using hparagraph
  simp only [holdsOnly_iff]
  rw [effectiveType, if_pos hparagraph, htype]
  split
  · next kind hkind =>
      rw [hkind]
      simp only [List.cons.injEq, and_true, forall_eq']
      split
      · next htext => simp [htext]
      · next htext => simp [htext]
  · next hmany => simpa using fun type htype => absurd htype (hmany type)

/-! ## Documents -/

/-- The nodes of a list that are no thematic breaks. -/
def unbroken (ns : List Node) : List Node := ns.filter fun n => !n.is .thematicBreak

/-- Between its breaks, a document is its top level without them. -/
theorem flatten_splitSections (root : Node) :
    (splitSections root).flatten = unbroken root.children := by
  rw [splitSections, List.flatten_filter_not_isEmpty, flatten_splitWhere, unbroken]

/-- Breaks are passed over in a search for something else. -/
theorem find?_unbroken {q : Node → Bool} (h : ∀ n, q n = true → n.is .thematicBreak = false)
    (ns : List Node) : (unbroken ns).find? q = ns.find? q := by
  rw [unbroken, List.find?_filter]
  congr 1
  funext n
  cases hq : q n with
  | false => simp
  | true => simp [h n hq]

/-- What is noted of a document: its sections, and what a search through all of it finds. -/
structure Content.Surveys (c : Content) (root : Node) : Prop where
  partitioned : (c.sections.map Section.children).flatten = unbroken root.children
  ne_nil : ∀ s ∈ c.sections, s.children ≠ []
  together : ∀ xs x ms y zs, root.children = xs ++ x :: ms ++ y :: zs →
    x.is .thematicBreak = false → y.is .thematicBreak = false →
    (SamePart (c.sections.map Section.children) (unbroken xs).length
        (unbroken (xs ++ x :: ms)).length ↔
      ∀ m ∈ ms, m.is .thematicBreak = false)
  title : c.title = (root.children.find? fun n => n.is .heading).map Node.textContent
  intro : c.intro =
    (root.children.find? fun n => isProse n && !Text.allBlank n.textContent).map
      fun n => Text.trim n.textContent
  image : ImagesLocated (unbroken root.children) →
    c.image = ((Node.walkAll (unbroken root.children)).find? fun n => n.is .image).bind
      fun n => n.fields.url

theorem surveys_withMetadata (c : Content) (root : Node) :
    (c.withMetadata root).1.Surveys root := by
  have hsections : (c.withMetadata root).1.sections =
      (splitSections root).map fun g => (sectionOf g).1 := List.map_map
  have hchildren : (c.withMetadata root).1.sections.map Section.children = splitSections root := by
    rw [hsections, List.map_map]
    exact List.map_id _
  have hfind : ∀ {β : Type} (f : Section → Option β), (c.withMetadata root).1.sections.findSome? f =
      (splitSections root).findSome? fun g => f (sectionOf g).1 := by
    intro β f
    rw [hsections, List.findSome?_map]
    rfl
  have hother : ∀ {k : Mdast.Kind} {n : Node}, k ≠ .thematicBreak → n.is k = true →
      n.is .thematicBreak = false := by
    intro k n hk hn
    rw [← Bool.not_eq_true, Node.is_iff, Node.is_iff.1 hn]
    exact fun h => hk (Option.some.inj h)
  constructor
  · rw [hchildren, flatten_splitSections]
  · intro s hs
    rw [hsections] at hs
    obtain ⟨g, hg, rfl⟩ := List.mem_map.1 hs
    intro hempty
    have hsome : (!g.isEmpty) = true := (List.mem_filter.1 hg).2
    obtain rfl : g = [] := hempty
    cases hsome
  · intro xs x ms y zs hroot hx hy
    rw [hchildren, splitSections, hroot]
    exact samePart_splitWhere_iff hx hy
  · calc (c.withMetadata root).1.title
        = (splitSections root).findSome? titleOf := hfind Section.title
      _ = titleOf (splitSections root).flatten :=
          findSome?_eq_flatten rfl fun g _ xs => titleOf_append g xs
      _ = _ := by
          rw [flatten_splitSections, titleOf, find?_unbroken fun n => hother (by decide)]
  · calc (c.withMetadata root).1.intro
        = (splitSections root).findSome? introOf := hfind Section.intro
      _ = introOf (splitSections root).flatten :=
          findSome?_eq_flatten rfl fun g _ xs => introOf_append g xs
      _ = _ := by
          rw [flatten_splitSections, introOf_eq, find?_unbroken]
          intro n hn
          exact hother (k := .paragraph) (by decide) (by simp_all [isProse])
  · intro hlocated
    calc (c.withMetadata root).1.image
        = (splitSections root).findSome? imageOf := hfind Section.image
      _ = imageOf (splitSections root).flatten := by
          refine findSome?_eq_flatten rfl fun g hg xs => imageOf_append (fun n hn => ?_) xs
          obtain ⟨m, hm, hn⟩ := Node.mem_walkAll.1 hn
          refine hlocated n (Node.mem_walkAll.2 ⟨m, ?_, hn⟩)
          rw [← flatten_splitSections]
          exact List.mem_flatten.2 ⟨g, hg, hm⟩
      _ = _ := by rw [flatten_splitSections, imageOf_eq]

/-- The stage completes and notes of a document: its sections, which hold the top level in order
without the thematic breaks, none of them empty, each two nodes in one section exactly if no break
lies between them; the text of the first heading at the top level; the text of the first paragraph
there that has any and counts as one; and, where images have addresses, the address of the first
image in document order.  A paragraph counts as one unless all that it holds, blank texts apart, is
of one type other than text. -/
theorem getMetadata_surveys {s : State} {root : Node} (h : s.content.mdast = some root)
    (ctx : Context) :
    (∃ c log, getMetadata.run ctx s = .completed { s with content := c } log ∧ c.Surveys root) ∧
      ∀ n, isProse n = true ↔ n.is .paragraph = true ∧ ∀ type, HoldsOnly n type →
        type = Mdast.Kind.text.name ∨ type = Mdast.Kind.paragraph.name := by
  refine ⟨⟨(s.content.withMetadata root).1, (s.content.withMetadata root).2, ?_,
    surveys_withMetadata s.content root⟩, isProse_iff⟩
  simp only [getMetadata, h]

/-- A document that begins with a break, with an image of its own kind before the introduction and
breaks in a row. -/
def brochure : Node :=
  .ofKind .root
    [.ofKind .thematicBreak [],
      .ofKind .paragraph
        [.text " ", .mk "image" { Mdast.Fields.none with url := some "/hero.png" } []],
      .ofKind .thematicBreak [], .ofKind .thematicBreak [],
      .ofKind .paragraph [.text "\n"],
      .ofKind .heading [.ofKind .emphasis [.text "Our "], .text "tour"],
      .ofKind .paragraph [.text " Come ", .ofKind .strong [.text "in"], .text "\n"]]

/-- The state in which it is read. -/
def brochureRead : State := State.empty.mapContent fun c => { c with mdast := some brochure }

theorem getMetadata_surveys_brochure :
    brochureRead.content.mdast = some brochure ∧
      ∃ c log, getMetadata.run ⟨.empty, .empty⟩ brochureRead =
          .completed { brochureRead with content := c } log ∧
        (c.sections.map Section.children).flatten.length = 4 ∧ c.title = some "Our tour" ∧
        c.intro = some "Come in" ∧ c.image = some "/hero.png" := by
  have hmdast : brochureRead.content.mdast = some brochure := rfl
  obtain ⟨⟨c, log, hrun, hc⟩, -⟩ := getMetadata_surveys hmdast ⟨.empty, .empty⟩
  refine ⟨hmdast, c, log, hrun, ?_, ?_, ?_, ?_⟩
  · rw [hc.partitioned]
    decide +kernel
  · rw [hc.title]
    decide +kernel
  · rw [hc.intro]
    decide +kernel
  · rw [hc.image (by unfold ImagesLocated; decide +kernel)]
    decide +kernel

end Pipeline

end PagePress
