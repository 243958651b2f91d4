import Mathlib.Data.List.Chain
import PagePress.Proofs.Markup.RoundTrip
import PagePress.Proofs.View.Elements

/-!
# Preorder — a forest shows what its tokens show

Tree building drops end tags without an element to close, closes several elements at one end tag
and closes at the end what is still open.  None of this touches what the tokens show: the heads of
elements and the texts, one after another.

* `Item.ofNodes` lists the heads and texts of a forest, `Item.ofToken?` is what a token shows;
* `Forest.items` lists them for elements that are still open, and `joined_items_step` says what one
  token adds;
* `Normal` are the forests without empty texts, without adjacent texts and without children of void
  elements, and `Forest.Normal.step` keeps to them;
* `preorder_ofTokens`: the forest that tokens build is normal and shows what they show.
-/

namespace PagePress

namespace Markup

open View (Node Tidy isVoid)

/-! ## Items -/

/-- The head of an element or a text. -/
inductive Item where
  | head (tag : String) (attrs : Dict String)
  | text (s : String)
deriving DecidableEq

namespace Item

mutual

/-- The heads and texts of a node in document order. -/
def ofNode : Node → List Item
  | .element t as cs => .head t as :: ofNodes cs
  | .text s => [.text s]

/-- The heads and texts of a list of nodes in document order. -/
def ofNodes : List Node → List Item
  | [] => []
  | n :: ns => ofNode n ++ ofNodes ns

end

/-- What a token shows; an end tag shows nothing. -/
def ofToken? : Token → Option Item
  | .open t as => some (.head t as)
  | .empty t as => some (.head t as)
  | .text s => some (.text s)
  | .close _ => none

/-- Puts an item in front of others: a text becomes a part of a text that follows, and an empty
one is nothing. -/
def prepend : Item → List Item → List Item
  | .text a, .text b :: rest => .text (a ++ b) :: rest
  | .text a, rest => if a.isEmpty then rest else .text a :: rest
  | .head t as, rest => .head t as :: rest

/-- Consecutive texts as one. -/
def joined (is : List Item) : List Item := is.foldr prepend []

theorem joined_append (is js : List Item) :
    joined (is ++ js) = is.foldr prepend (joined js) := by
  simp [joined]

theorem prepend_empty (is : List Item) : prepend (.text "") is = is := by
  rcases is with _ | ⟨_ | s, is⟩ <;> simp [prepend]

/-- Two texts in front of others are one text in front of them. -/
theorem prepend_prepend (a b : String) (is : List Item) :
    prepend (.text a) (prepend (.text b) is) = prepend (.text (a ++ b)) is := by
  by_cases hb : b = ""
  · rw [hb, prepend_empty, String.append_empty]
  · rcases is with _ | ⟨_ | s, is⟩ <;> simp [prepend, hb, String.append_assoc]

theorem ofNodes_append (ms ns : List Node) : ofNodes (ms ++ ns) = ofNodes ms ++ ofNodes ns := by
  induction ms with
  | nil => rfl
  | cons m ms ih => simp [ofNodes, ih]

end Item

/-! ## Open elements -/

namespace Forest

open Item

/-- What stands in front of the innermost open element's content. -/
def itemsBefore : List OpenElement → List Item
  | [] => []
  | o :: os => itemsBefore os ++ ofNodes o.earlier.reverse ++ [.head o.tag o.attrs]

/-- The heads and texts read so far. -/
def items (f : Forest) : List Item := itemsBefore f.opened ++ ofNodes f.nodes.reverse

/-- Closing elements moves their content and shows nothing new. -/
theorem items_closeThrough (p : String → Bool) (opened : List OpenElement) :
    ∀ nodes, (closeThrough p opened nodes).items = items ⟨opened, nodes⟩ := by
  induction opened with
  | nil =>
      intro nodes
      rfl
  | cons o opened ih =>
      intro nodes
      have hclosed : items ⟨opened, .element o.tag o.attrs nodes.reverse :: o.earlier⟩ =
          items ⟨o :: opened, nodes⟩ := by
        simp [items, itemsBefore, ofNodes_append, ofNodes, ofNode]
      rw [closeThrough]
      split
      · exact hclosed
      · exact (ih _).trans hclosed

theorem items_push (f : Forest) (n : Node) : (f.push n).items = f.items ++ ofNode n := by
  simp [items, push, ofNodes_append, ofNodes]

/-- A text joins the text before it, or stands behind what was read. -/
theorem joined_items_pushText (f : Forest) (s : String) (rest : List Item) :
    joined ((f.pushText s).items ++ rest) = joined (f.items ++ .text s :: rest) := by
  have hjoined : joined (.text s :: rest) = prepend (.text s) (joined rest) := rfl
  by_cases hs : s = ""
  · rw [joined_append _ (_ :: _), hjoined, hs, Item.prepend_empty, ← joined_append]
    simp [pushText]
  · obtain ⟨opened, nodes⟩ := f
    rcases nodes with _ | ⟨⟨t, as, cs⟩ | t, nodes⟩
    · simp [pushText, hs, items, ofNodes, ofNode]
    · simp [pushText, hs, items, ofNodes_append, ofNodes, ofNode]
    · -- Both texts end in one item, whichever are joined first.
      let before := itemsBefore opened ++ ofNodes nodes.reverse
      calc
        joined ((pushText ⟨opened, .text t :: nodes⟩ s).items ++ rest)
            = before.foldr prepend (prepend (.text (t ++ s)) (joined rest)) := by
              simp [before, pushText, hs, items, ofNodes_append, ofNodes, ofNode, joined]
        _ = before.foldr prepend (prepend (.text t) (prepend (.text s) (joined rest))) := by
              rw [Item.prepend_prepend]
        _ = joined (items ⟨opened, .text t :: nodes⟩ ++ .text s :: rest) := by
              simp [before, items, ofNodes_append, ofNodes, ofNode, joined]

/-- A token adds what it shows, whatever is shown behind it. -/
theorem joined_items_step (f : Forest) (t : Token) (rest : List Item) :
    joined ((f.step t).items ++ rest) = joined (f.items ++ ((ofToken? t).toList ++ rest)) := by
  cases t with
  | text s => exact joined_items_pushText f s rest
  | empty t as =>
      have hitems : (f.push (.element t as [])).items = f.items ++ [.head t as] := items_push f _
      simp [step, ofToken?, hitems]
  | close t =>
      -- An end tag closes elements or is dropped.
      rw [step]
      split
      · rw [items_closeThrough]
        rfl
      · rfl
  | «open» t as =>
      rw [step]
      split
      · have hitems : (f.push (.element t as [])).items = f.items ++ [.head t as] := items_push f _
        simp [ofToken?, hitems]
      · simp [items, itemsBefore, ofNodes, ofToken?]

/-- Tokens add what they show. -/
theorem joined_items_foldl (ts : List Token) :
    ∀ f : Forest, joined (ts.foldl step f).items = joined (f.items ++ ts.filterMap ofToken?) := by
  induction ts with
  | nil =>
      intro f
      simp
  | cons t ts ih =>
      intro f
      calc
        joined ((t :: ts).foldl step f).items
          = joined ((f.step t).items ++ ts.filterMap ofToken?) := ih (f.step t)
        _ = joined (f.items ++ ((ofToken? t).toList ++ ts.filterMap ofToken?)) :=
              joined_items_step f t _
        _ = joined (f.items ++ (t :: ts).filterMap ofToken?) := by
              cases h : ofToken? t <;> simp [h]

/-- In the end the forest shows what was read. -/
theorem ofNodes_finish (f : Forest) : ofNodes f.finish = f.items := by
  have hclosed := items_closeThrough (fun _ => false) f.opened f.nodes
  rw [items, opened_closeThrough_false] at hclosed
  exact hclosed

end Forest

/-! ## Normal forests -/

/-- One of two neighbours is an element. -/
def Apart (m n : Node) : Prop := m.isElement = true ∨ n.isElement = true

/-- No text is empty, no two texts are neighbours and no void element has children, at any
depth. -/
inductive Normal : List Node → Prop where
  | intro {ns : List Node} (apart : ns.IsChain Apart) (texts : ∀ s, .text s ∈ ns → s ≠ "")
      (voids : ∀ t as cs, .element t as cs ∈ ns → isVoid t = true → cs = [])
      (inner : ∀ t as cs, .element t as cs ∈ ns → Normal cs) : Normal ns

namespace Normal

variable {ns cs : List Node} {s t : String} {as : Dict String}

theorem nil : Normal [] := by
  constructor <;> simp

theorem tail {n : Node} (h : Normal (n :: ns)) : Normal ns := by
  cases h with
  | intro apart texts voids inner =>
      exact ⟨apart.tail, fun s hs => texts s (List.mem_cons_of_mem _ hs),
        fun t as cs hc => voids t as cs (List.mem_cons_of_mem _ hc),
        fun t as cs hc => inner t as cs (List.mem_cons_of_mem _ hc)⟩

/-- Being neighbours goes both ways, so that the order does not matter. -/
theorem reverse (h : Normal ns) : Normal ns.reverse := by
  cases h with
  | intro apart texts voids inner =>
      refine ⟨?_, by simpa using texts, by simpa using voids, by simpa using inner⟩
      rw [List.isChain_reverse]
      exact apart.imp fun _ _ => Or.symm

theorem cons_element (h : Normal ns) (hcs : Normal cs) (hvoid : isVoid t = true → cs = []) :
    Normal (.element t as cs :: ns) := by
  cases h with
  | intro apart texts voids inner =>
      refine ⟨?_, ?_, ?_, ?_⟩
      · exact List.isChain_cons.2 ⟨fun _ _ => .inl rfl, apart⟩
      · intro s hs
        exact texts s (by simpa using hs)
      · intro t' as' cs' hc
        rcases List.mem_cons.1 hc with heq | hc
        · cases heq
          exact hvoid
        · exact voids t' as' cs' hc
      · intro t' as' cs' hc
        rcases List.mem_cons.1 hc with heq | hc
        · cases heq
          exact hcs
        · exact inner t' as' cs' hc

theorem cons_text (h : Normal ns) (hs : s ≠ "") (hns : ∀ n ∈ ns.head?, n.isElement = true) :
    Normal (.text s :: ns) := by
  cases h with
  | intro apart texts voids inner =>
      refine ⟨?_, ?_, ?_, ?_⟩
      · exact List.isChain_cons.2 ⟨fun n hn => .inr (hns n hn), apart⟩
      · intro u hu
        rcases List.mem_cons.1 hu with heq | hu
        · cases heq
          exact hs
        · exact texts u hu
      · intro t as cs hc
        exact voids t as cs (by simpa using hc)
      · intro t as cs hc
        exact inner t as cs (by simpa using hc)

/-- Behind a text comes an element. -/
theorem isElement_of_head? (h : Normal (.text s :: ns)) : ∀ n ∈ ns.head?, n.isElement = true := by
  cases h with
  | intro apart texts voids inner =>
      intro n hn
      rcases (List.isChain_cons.1 apart).1 n hn with hs | hn
      · cases hs
      · exact hn

theorem tidy (h : Normal ns) : Tidy ns := by
  induction h with
  | @intro ns apart texts voids inner ih =>
      -- The children are tidy by `ih`; what is left is to go along the list.
      clear voids inner
      induction ns with
      | nil => exact .nil
      | cons n ns ihns =>
          have htail : Tidy ns := ihns apart.tail
            (fun s hs => texts s (List.mem_cons_of_mem _ hs))
            fun t as cs hc => ih t as cs (List.mem_cons_of_mem _ hc)
          cases n with
          | element t as cs => exact .element (ih t as cs (List.mem_cons_self ..)) htail
          | text s =>
              refine .text (texts s (List.mem_cons_self ..)) ?_ htail
              rintro u rest rfl
              rcases (List.isChain_cons.1 apart).1 (.text u) rfl with hs | hu
              · cases hs
              · cases hu

/-- A void element has no children, wherever it stands. -/
theorem children_of_isVoid (h : Normal ns) :
    ∀ t as cs, Node.element t as cs ∈ Node.elementsAll ns → isVoid t = true → cs = [] := by
  induction h with
  | @intro ns apart texts voids inner ih =>
      intro t as cs hmem hvoid
      obtain ⟨n, hn, hx⟩ := Node.mem_elementsAll.1 hmem
      cases n with
      | text s => cases hx
      | element t' as' cs' =>
          -- The element stands in the list itself or below one that does.
          rcases List.mem_cons.1 hx with heq | hx
          · cases heq
            exact voids t as cs hn hvoid
          · exact ih t' as' cs' hn t as cs hx hvoid

end Normal

/-! ## Keeping to normal forests -/

namespace Forest

/-- What was read so far is normal, and no void element is open. -/
structure Normal (f : Forest) : Prop where
  nodes : Markup.Normal f.nodes
  earlier : ∀ o ∈ f.opened, Markup.Normal o.earlier
  tags : ∀ o ∈ f.opened, isVoid o.tag = false

namespace Normal

variable {f : Forest}

theorem start : Normal .start := by
  refine ⟨.nil, ?_, ?_⟩
  · intro o ho
    cases ho
  · intro o ho
    cases ho

theorem pushText (h : f.Normal) (s : String) : (f.pushText s).Normal := by
  unfold Forest.pushText
  by_cases hs : s = ""
  · simpa [hs] using h
  · have hempty : ¬ s.isEmpty = true := by simpa using hs
    rw [if_neg hempty]
    split
    · -- The text before it grows.
      rename_i t earlier hnodes
      have hearlier := h.nodes
      rw [hnodes] at hearlier
      refine ⟨hearlier.tail.cons_text ?_ hearlier.isElement_of_head?, h.earlier, h.tags⟩
      intro hjoin
      exact hs (String.append_eq_empty_iff.1 hjoin).2
    · -- What was read last is an element, if anything.
      rename_i hnodes
      refine ⟨h.nodes.cons_text hs ?_, h.earlier, h.tags⟩
      intro n hn
      cases n with
      | element t as cs => rfl
      | text t =>
          obtain ⟨rest, hrest⟩ := List.head?_eq_some_iff.1 hn
          exact absurd hrest (hnodes t rest)

theorem pushEmpty (h : f.Normal) (t : String) (as : Dict String) :
    (f.push (.element t as [])).Normal :=
  ⟨h.nodes.cons_element .nil fun _ => rfl, h.earlier, h.tags⟩

theorem closeThrough (p : String → Bool) :
    ∀ {opened : List OpenElement} {nodes : List Node}, Normal ⟨opened, nodes⟩ →
      (closeThrough p opened nodes).Normal := by
  intro opened
  induction opened with
  | nil => exact fun h => h
  | cons o opened ih =>
      intro nodes h
      have htag : isVoid o.tag = false := h.tags o (List.mem_cons_self ..)
      have hclosed : Normal ⟨opened, .element o.tag o.attrs nodes.reverse :: o.earlier⟩ := by
        refine ⟨?_, fun o' ho' => h.earlier o' (List.mem_cons_of_mem _ ho'),
          fun o' ho' => h.tags o' (List.mem_cons_of_mem _ ho')⟩
        refine (h.earlier o (List.mem_cons_self ..)).cons_element h.nodes.reverse ?_
        intro hvoid
        rw [htag] at hvoid
        cases hvoid
      rw [Forest.closeThrough]
      split
      · exact hclosed
      · exact ih hclosed

/-- Reading a token keeps to normal forests. -/
theorem step (h : f.Normal) (t : Token) : (f.step t).Normal := by
  cases t with
  | text s => exact h.pushText s
  | empty t as => exact h.pushEmpty t as
  | close t =>
      rw [Forest.step]
      split
      · exact closeThrough _ h
      · exact h
  | «open» t as =>
      rw [Forest.step]
      split
      · exact h.pushEmpty t as
      · -- The element is open and still empty; what stood before it is kept aside.
        rename_i hvoid
        refine ⟨.nil, ?_, ?_⟩
        · rw [List.forall_mem_cons]
          exact ⟨h.nodes, h.earlier⟩
        · rw [List.forall_mem_cons]
          exact ⟨by simpa using hvoid, h.tags⟩

theorem foldl_step (h : f.Normal) (ts : List Token) : (ts.foldl Forest.step f).Normal := by
  induction ts generalizing f with
  | nil => exact h
  | cons t ts ih => exact ih (h.step t)

theorem finish (h : f.Normal) : Markup.Normal f.finish :=
  (closeThrough (fun _ => false) h).nodes.reverse

end Normal

end Forest

/-! ## Whole forests -/

theorem joined_ofNodes_ofTokens (ts : List Token) :
    Item.joined (Item.ofNodes (Forest.ofTokens ts)) = Item.joined (ts.filterMap Item.ofToken?) := by
  rw [Forest.ofTokens, Forest.ofNodes_finish, Forest.joined_items_foldl]
  rfl

/-- The forest that tokens build shows their heads and texts in their order, an element for each
start tag and each empty tag and no text lost.  No text in it is empty, no two texts are
neighbours, and void elements have no children. -/
theorem preorder_ofTokens (ts : List Token) :
    Item.joined (Item.ofNodes (Forest.ofTokens ts)) = Item.joined (ts.filterMap Item.ofToken?) ∧
      Tidy (Forest.ofTokens ts) ∧
      ∀ t as cs, Node.element t as cs ∈ Node.elementsAll (Forest.ofTokens ts) →
        isVoid t = true → cs = [] := by
  have hnormal : Normal (Forest.ofTokens ts) := (Forest.Normal.start.foldl_step ts).finish
  exact ⟨joined_ofNodes_ofTokens ts, hnormal.tidy, hnormal.children_of_isVoid⟩

end Markup

end PagePress
