import PagePress.Text.Ascii
import PagePress.View.Node
import PagePress.Markup.RawText

/-!
# Tidy trees — what HTML can tell of a view tree

HTML shows neither an empty text nor where one text ends and the next begins, and not every tag
or attribute name can be read back.

* `Node.tidyAll` drops empty texts and joins adjacent ones, at every depth;
* `Node.htmlAll_tidyAll`: the HTML stays the same;
* `Tidy` are the lists of nodes in which there is nothing of that kind to do;
* `Node.Writable` are the nodes whose HTML can be read: plain names, void elements without
  children, raw text elements with at most one text, which does not hold their end tag;
* `Node.Legible` are those with any names that HTML allows.
-/

namespace PagePress

namespace View

/-! ## Names -/

/-- A small letter or a digit. -/
def isTagChar (c : Char) : Bool := c.isLower || c.isDigit

/-- A small letter, a digit or a hyphen. -/
def isAttrChar (c : Char) : Bool := isTagChar c || c = '-'

/-- A small letter followed by characters of a class. -/
def isName (p : Char → Bool) (s : String) : Bool :=
  match s.toList with
  | [] => false
  | c :: cs => c.isLower && cs.all p

/-- The name of an element. -/
def isTagName (s : String) : Bool := isName isTagChar s

/-- The name of an attribute. -/
def isAttrName (s : String) : Bool := isName isAttrChar s

/-- A character that any name in HTML may hold as it is: no blank, no sign of markup and no
capital. -/
def isNameChar (c : Char) : Bool :=
  !([' ', '\t', '\n', '\r', '<', '>', '"', '\'', '/', '='].contains c || c.isUpper)

/-- Any name of an element that is read as it is written. -/
def isElementName (s : String) : Bool := isName isNameChar s

/-- Any name of an attribute that is read as it is written. -/
def isAttributeName (s : String) : Bool := !s.toList.isEmpty && s.toList.all isNameChar

theorem isName_iff {p : Char → Bool} {s : String} :
    isName p s = true ↔ ∃ c cs, s.toList = c :: cs ∧ c.isLower = true ∧ ∀ d ∈ cs, p d = true := by
  unfold isName
  cases s.toList with
  | nil => simp
  | cons c cs => simp [and_assoc]

namespace Node

/-! ## Induction -/

mutual

/-- A property of texts that elements inherit from their children holds of every node. -/
theorem induct {P : Node → Prop} (text : ∀ s, P (.text s))
    (element : ∀ t as cs, (∀ c ∈ cs, P c) → P (.element t as cs)) : ∀ n, P n
  | .text s => text s
  | .element t as cs => element t as cs (inductAll text element cs)

theorem inductAll {P : Node → Prop} (text : ∀ s, P (.text s))
    (element : ∀ t as cs, (∀ c ∈ cs, P c) → P (.element t as cs)) :
    ∀ ns : List Node, ∀ n ∈ ns, P n
  | [], _, h => nomatch h
  | m :: ms, n, h =>
    (List.mem_cons.1 h).elim (fun e => e ▸ induct text element m)
      (inductAll text element ms n)

end

theorem htmlAll_eq_flatMap (ns : List Node) : htmlAll ns = ns.flatMap html := by
  induction ns with
  | nil => rfl
  | cons n ns ih => rw [htmlAll, ih, List.flatMap_cons]

/-! ## Tidying -/

/-- Puts a node in front of others: an empty text leaves nothing, and a text becomes a part of a
text that follows. -/
def prepend : Node → List Node → List Node
  | .text s, .text t :: ns => .text (s ++ t) :: ns
  | .text s, ns => if s.isEmpty then ns else .text s :: ns
  | .element t as cs, ns => .element t as cs :: ns

mutual

/-- A node with its descendants tidied. -/
def tidy : Node → Node
  | .text s => .text s
  | .element t as cs => .element t as (tidyAll cs)

/-- Drops empty texts and joins adjacent ones, at every depth. -/
def tidyAll : List Node → List Node
  | [] => []
  | n :: ns => prepend (tidy n) (tidyAll ns)

end

/-! ## HTML of tidied nodes -/

theorem htmlAll_append (ms ns : List Node) : htmlAll (ms ++ ns) = htmlAll ms ++ htmlAll ns := by
  simp [htmlAll_eq_flatMap]

/-- A node in front of others comes first in the HTML, joined or not. -/
theorem htmlAll_prepend (n : Node) (ns : List Node) :
    htmlAll (prepend n ns) = html n ++ htmlAll ns := by
  cases n with
  | element t as cs => rfl
  | text s =>
      by_cases hs : s = ""
      · rcases ns with _ | ⟨_ | t, ns⟩ <;> simp [prepend, hs, htmlAll, html, escapeText]
      · rcases ns with _ | ⟨_ | t, ns⟩ <;> simp [prepend, hs, htmlAll, html, escapeText]

theorem htmlRaw_prepend (n : Node) (ns : List Node) :
    htmlRaw (prepend n ns) = htmlRaw [n] ++ htmlRaw ns := by
  cases n with
  | element t as cs => simp [prepend, htmlRaw]
  | text s =>
      by_cases hs : s = ""
      · rcases ns with _ | ⟨_ | t, ns⟩ <;> simp [prepend, hs, htmlRaw]
      · rcases ns with _ | ⟨_ | t, ns⟩ <;> simp [prepend, hs, htmlRaw]

theorem htmlAll_tidyAll_of {ns : List Node} (h : ∀ n ∈ ns, html n.tidy = html n) :
    htmlAll (tidyAll ns) = htmlAll ns := by
  induction ns with
  | nil => rfl
  | cons n ns ih =>
      have hhead : html n.tidy = html n := h n (List.mem_cons_self ..)
      have htail := ih fun m hm => h m (List.mem_cons_of_mem _ hm)
      rw [tidyAll, htmlAll_prepend, hhead, htail, htmlAll]

theorem htmlRaw_tidyAll_of {ns : List Node} (h : ∀ n ∈ ns, html n.tidy = html n) :
    htmlRaw (tidyAll ns) = htmlRaw ns := by
  induction ns with
  | nil => rfl
  | cons n ns ih =>
      have hhead : html n.tidy = html n := h n (List.mem_cons_self ..)
      have htail := ih fun m hm => h m (List.mem_cons_of_mem _ hm)
      rw [tidyAll, htmlRaw_prepend, htail]
      cases n with
      | text s => simp [tidy, htmlRaw]
      | element t as cs => simpa [tidy, htmlRaw] using hhead

/-- Tidying does not change the HTML of a node. -/
theorem html_tidy : ∀ n : Node, html n.tidy = html n := by
  -- The text of raw text elements is written in another way, so both ways go through the induction.
  refine induct (fun s => rfl) ?_
  intro t as cs ih
  rw [tidy, html, html, htmlAll_tidyAll_of ih, htmlRaw_tidyAll_of ih]

theorem htmlAll_tidyAll (ns : List Node) : htmlAll (tidyAll ns) = htmlAll ns :=
  htmlAll_tidyAll_of fun n _ => html_tidy n

end Node

/-- Lists of nodes without empty and without adjacent texts, at any depth. -/
inductive Tidy : List Node → Prop where
  | nil : Tidy []
  | text {s : String} {ns : List Node} :
      s ≠ "" → (∀ t rest, ns ≠ .text t :: rest) → Tidy ns → Tidy (.text s :: ns)
  | element {t : String} {as : Dict String} {cs ns : List Node} :
      Tidy cs → Tidy ns → Tidy (.element t as cs :: ns)

/-- Tidying leaves a tidy list as it is. -/
theorem Tidy.tidyAll_eq {ns : List Node} (h : Tidy ns) : Node.tidyAll ns = ns := by
  induction h with
  | nil => rfl
  | @text s ns hs hns _ ih =>
      rw [Node.tidyAll, ih, Node.tidy]
      cases ns with
      | nil => simp [Node.prepend, hs]
      | cons n ns =>
          cases n with
          | text t => exact absurd rfl (hns t ns)
          | element t as cs => simp [Node.prepend, hs]
  | element _ _ ihc ihn => simp [Node.tidyAll, Node.tidy, ihc, ihn, Node.prepend]

/-! ## Writable nodes -/

/-- The start of the end tag of an element. -/
def endTagStart (tag : String) : List Char := '<' :: '/' :: tag.toList

/-- Nodes whose HTML can be read. -/
inductive Node.Writable : Node → Prop where
  | text (s : String) : Writable (.text s)
  /-- A void element has no children. -/
  | void {t : String} {as : Dict String} :
      isTagName t = true → (∀ e ∈ as.entries, isAttrName e.1 = true) → isVoid t = true →
      Writable (.element t as [])
  /-- A raw text element holds at most one text; a `script` or a `style` does not hold the start
  of its own end tag. -/
  | raw {t : String} {as : Dict String} {cs : List Node} :
      t ∈ Markup.rawTextNames → (∀ e ∈ as.entries, isAttrName e.1 = true) →
      (cs = [] ∨ ∃ s, cs = [.text s] ∧
        (t ∈ rawTextTags → ¬ endTagStart t <:+: Text.lower s.toList)) →
      Writable (.element t as cs)
  | element {t : String} {as : Dict String} {cs : List Node} :
      isTagName t = true → (∀ e ∈ as.entries, isAttrName e.1 = true) → isVoid t = false →
      t ∉ Markup.rawTextNames → (∀ c ∈ cs, Writable c) → Writable (.element t as cs)

/-! ## Legible nodes -/

/-- The letters and digits that a tag starts with, by which a raw text element is told. -/
def rawPrefix (tag : String) : String := String.ofList (tag.toList.takeWhile Text.isAlnum)

/-- Nodes whose HTML can be read, with any names that HTML allows. -/
inductive Node.Legible : Node → Prop where
  | text (s : String) : Legible (.text s)
  | void {t : String} {as : Dict String} :
      isElementName t = true → (∀ e ∈ as.entries, isAttributeName e.1 = true) →
      isVoid t = true → Legible (.element t as [])
  | raw {t : String} {as : Dict String} {cs : List Node} :
      t ∈ Markup.rawTextNames → (∀ e ∈ as.entries, isAttributeName e.1 = true) →
      (cs = [] ∨ ∃ s, cs = [.text s] ∧
        (t ∈ rawTextTags → ¬ endTagStart t <:+: Text.lower s.toList)) →
      Legible (.element t as cs)
  /-- A tag that starts like that of a raw text element is taken for one. -/
  | element {t : String} {as : Dict String} {cs : List Node} :
      isElementName t = true → (∀ e ∈ as.entries, isAttributeName e.1 = true) →
      isVoid t = false → rawPrefix t ∉ Markup.rawTextNames → (∀ c ∈ cs, Legible c) →
      Legible (.element t as cs)

end View

end PagePress
