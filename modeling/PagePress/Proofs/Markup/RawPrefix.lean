import PagePress.Proofs.Markup.Preorder
import PagePress.Proofs.Markup.Tolerance

/-!
# Raw prefixes — which start tags open raw text

Escaping takes the letters and digits at the start of a tag for its name, and the reader everything
up to a blank or to the end of the tag.  For plain names this is the same; a custom element whose
name starts with `script-` opens raw text for the one and an ordinary element for the other.

* `Kept.escapeFrom_suffix`: behind markup that escaping keeps comes what it opens;
* `escapeRaw` is what becomes of raw text and of what follows its end tag;
* `CustomName` are names with hyphens;
* `rawPrefix_decides`: raw text follows a start tag by what its name starts with, and so a custom
  element is read back exactly if its name does not start like that of a raw text element.
-/

namespace PagePress

namespace Markup

open View

/-! ## Places in a text -/

theorem escapeFrom_next (p : Place) (c : Char) (rest : List Char) :
    escapeFrom (p.next c rest) rest <:+ escapeFrom p (c :: rest) := by
  rw [escapeFrom_cons]
  exact List.suffix_append ..

/-- Escaping goes on behind the first part of a text from the place there. -/
theorem escapeFrom_after (xs ys : List Char) :
    ∀ p : Place, escapeFrom (p.after xs ys) ys <:+ escapeFrom p (xs ++ ys) := by
  induction xs with
  | nil => exact fun _ => List.suffix_rfl
  | cons c xs ih => exact fun p => (ih (p.next c (xs ++ ys))).trans (escapeFrom_next ..)

/-- Behind markup that is kept comes what it opens. -/
theorem Kept.escapeFrom_suffix {p : Place} {before markup rest : List Char}
    (h : Kept p before markup rest) :
    '<' :: (markup ++ escapeFrom (.markup 0 (rawTextName? markup)) rest) <:+
      escapeFrom p (before ++ '<' :: (markup ++ rest)) := by
  have hplace : escapeFrom (p.after before ('<' :: (markup ++ rest))) ('<' :: (markup ++ rest)) =
      escapeFrom .text ('<' :: (markup ++ rest)) := escapeFrom_of_settle h.place
  rw [← escapeFrom_tag h.length, ← hplace]
  exact escapeFrom_after ..

/-! ## Raw text -/

/-- The length of raw text up to its end tag. -/
def rawLength (name : String) : List Char → Nat
  | [] => 0
  | c :: rest => if endsRawText name (c :: rest) then 0 else rawLength name rest + 1

/-- What becomes of the raw text of an element and of what follows it. -/
def escapeRaw (name : String) (cs : List Char) : List Char :=
  (cs.take (rawLength name cs)).flatMap (escapeRawChar name) ++
    escapeStray (cs.drop (rawLength name cs))

theorem escapeFrom_raw_eq (name : String) (cs : List Char) :
    escapeFrom (.raw name) cs = escapeRaw name cs := by
  induction cs with
  | nil => rfl
  | cons c rest ih =>
      -- From its end tag on, the text is escaped as ordinary text.
      rw [escapeRaw, rawLength]
      by_cases h : endsRawText name (c :: rest) = true
      · have hsettle : (Place.raw name).settle (c :: rest) = Place.text.settle (c :: rest) := by
          simp [Place.settle, h]
        rw [if_pos h]
        exact escapeFrom_of_settle hsettle
      · rw [if_neg h, escapeFrom_raw_cons (by simpa using h), ih]
        simp [escapeRaw]

/-! ## Start tags -/

/-- A start tag that escaping keeps; a letter comes first, and it is no empty tag. -/
structure KeptStart (before tag rest : List Char) : Prop extends Kept .text before tag rest where
  letter : ∃ c ∈ tag.head?, c.isAlpha = true
  notEmpty : ¬ ['/', '>'] <:+ tag

theorem KeptStart.exists_content {before tag rest : List Char} (h : KeptStart before tag rest) :
    ∃ c cs, c.isAlpha = true ∧ tag = c :: cs ++ ['>'] ∧ scan none (c :: cs) = some none ∧
      (c :: cs).getLast? ≠ some '/' := by
  obtain ⟨c, hhead, hc⟩ := h.letter
  obtain ⟨ds, rfl⟩ := List.head?_eq_some_iff.1 hhead
  have hlength : tagLength? none (c :: ds ++ rest) = some (c :: ds).length :=
    (markupLength?_of_isAlpha hc).symm.trans h.length
  -- The tag is as long as it is measured, and so the `>` that is found is its own last one.
  obtain ⟨content, more, hsplit, hlast, hscan⟩ := exists_of_tagLength? hlength
  have hcontent : c :: ds = content ++ ['>'] := by
    have htake := congrArg (List.take (c :: ds).length) hsplit
    rwa [List.take_left, hlast, List.take_length_add_append] at htake
  obtain ⟨cs, rfl⟩ := exists_cons_of_append_close hcontent (ne_of_isAlpha hc (by decide))
  refine ⟨c, cs, hc, hcontent, hscan, ?_⟩
  intro hslash
  obtain ⟨xs, hxs⟩ := List.getLast?_eq_some_iff.1 hslash
  refine h.notEmpty ⟨xs, ?_⟩
  rw [hcontent, hxs, List.append_assoc]
  rfl

theorem ofTag_of_getLast? {content : List Char} (h : content.getLast? ≠ some '/') :
    ∃ attrs, Token.ofTag content = .open (readName content) attrs :=
  ⟨_, by simp only [Token.ofTag, h, if_false]; rfl⟩

/-- The reader opens an element wherever it meets the tag, and its name decides on raw text. -/
theorem KeptStart.opens {before tag rest : List Char} (h : KeptStart before tag rest) :
    ∃ name attrs,
      (∀ more, markupAt? (tag ++ more) = some (some (.open name attrs), tag.length)) ∧
        rawTextName? tag = rawTextNames.find? (· == rawPrefix name) := by
  obtain ⟨c, cs, hc, rfl, hscan, hlast⟩ := h.exists_content
  obtain ⟨attrs, htoken⟩ := ofTag_of_getLast? hlast
  have hslash : (c :: cs).head? ≠ some '/' := by
    simpa using ne_of_isAlpha (d := '/') hc (by decide)
  refine ⟨readName (c :: cs), attrs, fun more => ?_, rawTextName?_eq hslash hlast⟩
  rw [List.append_assoc, List.singleton_append, markupAt?_startTag hc hscan, htoken]
  simp

/-- What becomes of the text behind a start tag. -/
theorem KeptStart.escapeStray_suffix {before tag rest : List Char}
    (h : KeptStart before tag rest) :
    ∃ name attrs,
      (∀ more, markupAt? (tag ++ more) = some (some (.open name attrs), tag.length)) ∧
        '<' :: (tag ++
          if rawPrefix name ∈ rawTextNames then escapeRaw (rawPrefix name) rest
          else escapeStray rest) <:+ escapeStray (before ++ '<' :: (tag ++ rest)) := by
  obtain ⟨name, attrs, hread, hraw⟩ := h.opens
  have hsuffix := h.toKept.escapeFrom_suffix
  -- What the tag opens is found by the reader's name for it.
  rw [hraw, find?_rawTextNames] at hsuffix
  refine ⟨name, attrs, hread, ?_⟩
  split
  · rename_i hmem
    rwa [if_pos hmem, escapeFrom_markup_some, escapeFrom_raw_eq] at hsuffix
  · rename_i hmem
    rwa [if_neg hmem, escapeFrom_markup_none] at hsuffix

/-! ## Custom names -/

/-- A part of a name with hyphens: small letters and digits. -/
def isNamePart (s : String) : Bool := !s.toList.isEmpty && s.toList.all isTagChar

/-- A name with hyphens: a plain name and further parts, each behind a hyphen. -/
structure CustomName where
  head : String
  parts : List String
  isTagName_head : isTagName head = true
  parts_ne_nil : parts ≠ []
  isNamePart_parts : ∀ p ∈ parts, isNamePart p = true

namespace CustomName

/-- The whole name. -/
def name (n : CustomName) : String :=
  String.ofList (n.head.toList ++ n.parts.flatMap fun p => '-' :: p.toList)

variable (n : CustomName)

theorem toList_name :
    ∃ cs, n.name.toList = n.head.toList ++ '-' :: cs ∧ ∀ c ∈ cs, isNameChar c = true := by
  have hparts : ∀ c ∈ n.parts.flatMap fun p => '-' :: p.toList, isNameChar c = true := by
    intro c hc
    obtain ⟨p, hp, hc⟩ := List.mem_flatMap.1 hc
    rcases List.mem_cons.1 hc with rfl | hc
    · decide
    · have hpart := n.isNamePart_parts p hp
      rw [isNamePart, Bool.and_eq_true, List.all_eq_true] at hpart
      have htag : isTagChar c = true := hpart.2 c hc
      exact isNameChar_of_isAttrChar (Bool.or_eq_true _ _ ▸ .inl htag)
  rw [name, String.toList_ofList]
  cases hsplit : n.parts with
  | nil => exact absurd hsplit n.parts_ne_nil
  | cons p ps =>
      refine ⟨p.toList ++ ps.flatMap fun p => '-' :: p.toList, rfl, fun c hc => ?_⟩
      rw [hsplit] at hparts
      exact hparts c (List.mem_cons_of_mem _ hc)

theorem isElementName_name : isElementName n.name = true := by
  obtain ⟨cs, hname, hcs⟩ := n.toList_name
  obtain ⟨c, ds, hhead, hc, hds⟩ := isName_iff.1 (isElementName_of_isTagName n.isTagName_head)
  refine isName_iff.2 ⟨c, ds ++ '-' :: cs, by rw [hname, hhead]; rfl, hc, ?_⟩
  rw [List.forall_mem_append, List.forall_mem_cons]
  exact ⟨hds, by decide, hcs⟩

theorem rawPrefix_name : rawPrefix n.name = n.head := by
  obtain ⟨cs, hname, -⟩ := n.toList_name
  rw [rawPrefix, hname, List.takeWhile_append_of_pos (isAlnum_of_isTagName n.isTagName_head),
    List.takeWhile_cons_of_neg (by decide), List.append_nil, String.ofList_toList]

/-- No name of the HTML standard that is treated apart has a hyphen. -/
theorem not_mem_of_no_hyphen {names : List String} (h : ∀ u ∈ names, '-' ∉ u.toList) :
    n.name ∉ names := by
  intro hmem
  obtain ⟨cs, hname, -⟩ := n.toList_name
  exact h _ hmem (by simp [hname])

theorem isVoid_name : isVoid n.name = false := by
  rw [isVoid, ← Bool.not_eq_true, List.contains_iff_mem]
  exact n.not_mem_of_no_hyphen (by decide)

theorem html_element (ns : List Node) :
    (Node.element n.name .empty ns).html =
      startTagHtml n.name .empty ++ (Node.htmlAll ns ++ endTagHtml n.name) := by
  have hraw : rawTextTags.contains n.name = false := by
    rw [← Bool.not_eq_true, List.contains_iff_mem]
    exact n.not_mem_of_no_hyphen (by decide)
  simp only [Node.html, n.isVoid_name, hraw, Bool.false_eq_true, if_false, List.append_assoc]

theorem head?_html (ns : List Node) :
    (Node.element n.name .empty ns).html.head? ≠ some byteOrderMark := by
  rw [n.html_element, startTagHtml_eq]
  intro heq
  exact absurd (Option.some.inj heq) (by decide)

end CustomName

/-! ## Leading texts -/

namespace Item

/-- The text that items start with. -/
def leading : List Item → String
  | .text s :: _ => s
  | _ => ""

theorem leading_prepend (a : String) (is : List Item) :
    leading (prepend (.text a) is) = a ++ leading is := by
  by_cases ha : a = ""
  · rw [ha, prepend_empty, String.empty_append]
  · rcases is with _ | ⟨_ | b, is⟩ <;> simp [prepend, leading, ha]

theorem leading_joined_textTokens (cs : List Char) (ts : List Token) :
    leading (joined ((textTokens cs ++ ts).filterMap ofToken?)) =
      String.ofList cs ++ leading (joined (ts.filterMap ofToken?)) := by
  induction cs with
  | nil => simp [textTokens]
  | cons c cs ih =>
      have hjoined : joined ((textTokens (c :: cs) ++ ts).filterMap ofToken?) =
          prepend (.text (String.ofList [c])) (joined ((textTokens cs ++ ts).filterMap ofToken?)) :=
        rfl
      rw [hjoined, leading_prepend, ih, ← String.append_assoc, ← String.ofList_append,
        List.singleton_append]

end Item

/-- A start tag does not end raw text. -/
theorem endsRawText_of_isLower {c : Char} (hc : c.isLower = true) (name : String)
    (rest : List Char) : endsRawText name ('<' :: c :: rest) = false := by
  have hstarts : Text.startsWithLower ('<' :: '/' :: name.toList) ('<' :: c :: rest) = false := by
    rw [← Bool.not_eq_true, startsWithLower_iff]
    intro hprefix
    have hupper : c.isUpper = false := isUpper_of_isNameChar (isNameChar_of_isLower hc)
    have hlower : '/' = c.toLower :=
      (List.cons_prefix_cons.1 (List.cons_prefix_cons.1 hprefix).2).1
    rw [Text.toLower_of_isUpper_eq_false hupper] at hlower
    exact isLower_ne hc (by decide) hlower.symm
  rw [endsRawText, hstarts, Bool.false_and]

theorem exists_html_of_legible {t : String} {as : Dict String} {cs : List Node}
    (h : (Node.element t as cs).Legible) :
    ∃ c rest, c.isLower = true ∧ (Node.element t as cs).html = '<' :: c :: rest := by
  have ht : isElementName t = true := by
    cases h with
    | void ht => exact ht
    | raw hraw => exact (isElementName_of_rawTextNames hraw).1
    | element ht => exact ht
  obtain ⟨c, ds, hname, hc, -⟩ := isName_iff.1 ht
  have hstart : ∃ rest, startTagHtml t as = '<' :: c :: rest :=
    ⟨_, by rw [startTagHtml_eq, tagBody, hname]; rfl⟩
  obtain ⟨rest, hrest⟩ := hstart
  rw [Node.html, hrest]
  split
  · exact ⟨c, _, hc, rfl⟩
  · split <;> exact ⟨c, _, hc, rfl⟩

open Item in
/-- The HTML of legible nodes in front of the end tag of a custom element: their leading text, and
then a `<` that does not end raw text. -/
theorem CustomName.exists_html_split (n : CustomName) {ns : List Node}
    (h : ∀ m ∈ ns, m.Legible) :
    ∃ more, Node.htmlAll ns ++ endTagHtml n.name =
        escapeText (leading (joined (ofNodes ns))) ++ '<' :: more ∧
      endsRawText n.head ('<' :: more) = false := by
  induction ns with
  | nil =>
      -- The name goes on where raw text would need a blank, a slash or the end of the tag.
      obtain ⟨cs, hname, -⟩ := n.toList_name
      have hdrop : ('<' :: ('/' :: n.name.toList ++ ['>'])).drop
          ('<' :: '/' :: n.head.toList).length = '-' :: (cs ++ ['>']) := by
        rw [hname]
        simp
      refine ⟨'/' :: n.name.toList ++ ['>'], rfl, ?_⟩
      simp only [endsRawText, hdrop]
      exact Bool.and_false _
  | cons m ns ih =>
      rw [List.forall_mem_cons] at h
      obtain ⟨hm, hns⟩ := h
      cases m with
      | text s =>
          obtain ⟨more, hsplit, hends⟩ := ih hns
          have hleading : leading (joined (ofNodes (.text s :: ns))) =
              s ++ leading (joined (ofNodes ns)) := leading_prepend ..
          refine ⟨more, ?_, hends⟩
          rw [Node.htmlAll, List.append_assoc, hsplit, hleading]
          simp [Node.html, escapeText]
      | element t as cs =>
          obtain ⟨c, rest, hc, hhtml⟩ := exists_html_of_legible hm
          refine ⟨c :: (rest ++ Node.htmlAll ns ++ endTagHtml n.name), ?_,
            endsRawText_of_isLower hc ..⟩
          rw [Node.htmlAll, hhtml]
          rfl

theorem length_le_escapeText (s : String) : s.toList.length ≤ (escapeText s).length := by
  unfold escapeText
  induction s.toList with
  | nil => exact Nat.le_refl _
  | cons c cs ih =>
      have hpos : 0 < (escapeTextChar c).length := by
        unfold escapeTextChar
        split <;> simp
      rw [List.flatMap_cons, List.length_append, List.length_cons]
      omega

theorem escapeFrom_raw_of_lt_not_mem {name : String} {xs : List Char} (h : '<' ∉ xs)
    (rest : List Char) :
    escapeFrom (.raw name) (xs ++ rest) =
      xs.flatMap (escapeRawChar name) ++ escapeFrom (.raw name) rest := by
  induction xs with
  | nil => rfl
  | cons c xs ih =>
      have hc : c ≠ '<' := fun heq => h (heq ▸ List.mem_cons_self ..)
      have hxs : '<' ∉ xs := fun hx => h (List.mem_cons_of_mem _ hx)
      rw [List.cons_append, escapeFrom_raw_cons (endsRawText_of_ne hc ..), ih hxs,
        List.flatMap_cons, List.append_assoc]

/-- A text in raw text is read as a text that is at least as long. -/
theorem exists_reads_escapeText (name s : String) :
    ∃ cs, s.toList.length ≤ cs.length ∧
      Reads ((escapeText s).flatMap (escapeRawChar name)) (textTokens cs) := by
  by_cases hname : name = "textarea"
  · -- References stay live.
    subst hname
    refine ⟨s.toList, Nat.le_refl _, ?_⟩
    rw [flatMap_escapeRawChar_textarea (lt_not_mem_escapeText s)]
    exact reads_flatMap reads_escapeTextChar s.toList
  · exact ⟨escapeText s, length_le_escapeText s,
      reads_flatMap (reads_escapeRawChar hname) (escapeText s)⟩

/-- Behind a start tag that opens raw text the leading text goes on with a `<`. -/
theorem CustomName.exists_tokens (n : CustomName) {ns forest : List Node}
    (h : ∀ m ∈ ns, m.Legible) (hhead : n.head ∈ rawTextNames)
    (hparse : parseChars? (Node.element n.name .empty ns).html = some forest) :
    ∃ cs ts, (Item.leading (Item.joined (Item.ofNodes ns))).toList.length < cs.length ∧
      forest = Forest.ofTokens (.open n.name .empty :: (textTokens cs ++ ts)) := by
  obtain ⟨more, hsplit, hends⟩ := n.exists_html_split h
  generalize hleading : Item.leading (Item.joined (Item.ofNodes ns)) = lead at hsplit ⊢
  obtain ⟨cs, hlength, hreads⟩ := exists_reads_escapeText n.head lead
  have hattrs : ∀ e ∈ (Dict.empty : Dict String).entries, isAttributeName e.1 = true := by
    intro e he
    cases he
  have hlt : Reads (escapeRawChar n.head '<') (textTokens ['<']) := reads_escapeTextChar '<'
  have hescape : escapeStray (Node.element n.name .empty ns).html =
      (startTagHtml n.name .empty ++
        ((escapeText lead).flatMap (escapeRawChar n.head) ++ escapeRawChar n.head '<')) ++
          escapeFrom (.raw n.head) more := by
    rw [n.html_element, escapeStray, escapeFrom_startTagHtml n.isElementName_name hattrs,
      n.rawPrefix_name, find?_rawTextNames, if_pos hhead, escapeFrom_markup_some, hsplit,
      escapeFrom_raw_of_lt_not_mem (lt_not_mem_escapeText _), escapeFrom_raw_cons hends]
    simp only [List.append_assoc]
  -- The start tag, the leading text and the `<` are read one after the other.
  have hstart := (reads_startTagHtml n.isElementName_name hattrs).append (hreads.append hlt)
  rw [parseChars?, ofChars?_escapeStray (n.head?_html ns), hescape, hstart] at hparse
  obtain ⟨tokens, htokens, rfl⟩ := Option.map_eq_some_iff.1 hparse
  obtain ⟨ts, -, rfl⟩ := Option.map_eq_some_iff.1 htokens
  refine ⟨cs ++ ['<'], ts, ?_, ?_⟩
  · rw [List.length_append, List.length_singleton]
    omega
  · simp [textTokens]

/-- A custom element is read back exactly if its name does not start like that of a raw text
element. -/
theorem CustomName.parseChars?_html (n : CustomName) {ns : List Node} (h : ∀ m ∈ ns, m.Legible)
    (ht : Tidy ns) :
    parseChars? (Node.element n.name .empty ns).html = some [.element n.name .empty ns] ↔
      n.head ∉ rawTextNames := by
  constructor
  · intro hparse hhead
    obtain ⟨cs, ts, hlength, hforest⟩ := n.exists_tokens h hhead hparse
    -- Both show the head of the element first, and different texts behind it.
    have hitems := joined_ofNodes_ofTokens (.open n.name .empty :: (textTokens cs ++ ts))
    rw [← hforest] at hitems
    have hbehind : Item.head n.name .empty :: Item.joined (Item.ofNodes ns) =
        .head n.name .empty :: Item.joined ((textTokens cs ++ ts).filterMap Item.ofToken?) := by
      refine Eq.trans ?_ hitems
      simp [Item.ofNodes, Item.ofNode, Item.joined, Item.prepend]
    rw [(List.cons.inj hbehind).2, Item.leading_joined_textTokens, String.toList_append,
      List.length_append, String.toList_ofList] at hlength
    omega
  · intro hhead
    have hlegible : (Node.element n.name .empty ns).Legible := by
      refine .element n.isElementName_name ?_ n.isVoid_name ?_ h
      · intro e he
        cases he
      · rwa [n.rawPrefix_name]
    have hread : parseChars? (Node.htmlAll [.element n.name .empty ns]) =
        some (Node.tidyAll [.element n.name .empty ns]) :=
      parseChars?_htmlAll_legible (by simpa using hlegible)
        (by simpa [Node.htmlAll] using n.head?_html ns)
    rw [(Tidy.element ht .nil).tidyAll_eq] at hread
    simpa [Node.htmlAll] using hread

/-- Raw text follows a start tag by the letters and digits that its name starts with, and ordinary
text follows it otherwise.  A custom element is therefore read back exactly if the first part of its
name is not the name of a raw text element. -/
theorem rawPrefix_decides {before tag rest : List Char} (hstart : KeptStart before tag rest)
    (n : CustomName) {ns : List Node} (hns : ∀ m ∈ ns, m.Legible) (ht : Tidy ns) :
    (∃ name attrs,
      (∀ more, markupAt? (tag ++ more) = some (some (.open name attrs), tag.length)) ∧
        '<' :: (tag ++
          if rawPrefix name ∈ rawTextNames then escapeRaw (rawPrefix name) rest
          else escapeStray rest) <:+ escapeStray (before ++ '<' :: (tag ++ rest))) ∧
      (parse? ("<" ++ n.name ++ ">" ++ String.join (ns.map Node.outerHtml) ++ "</" ++ n.name ++
          ">") = some [.element n.name .empty ns] ↔
        n.head ∉ rawTextNames) := by
  have hhtml : ("<" ++ n.name ++ ">" ++ String.join (ns.map Node.outerHtml) ++ "</" ++ n.name ++
      ">").toList = (Node.element n.name .empty ns).html := by
    have hattrs : attrsHtml .empty = [] := rfl
    simp only [String.toList_append, toList_join_outerHtml, n.html_element, startTagHtml_eq, tagBody,
      hattrs, endTagHtml]
    simp
  refine ⟨hstart.escapeStray_suffix, ?_⟩
  rw [parse?, hhtml]
  exact n.parseChars?_html hns ht

/-- The name `my-tag-2`. -/
def myTag : CustomName where
  head := "my"
  parts := ["tag", "2"]
  isTagName_head := by decide
  parts_ne_nil := by decide
  isNamePart_parts := by decide

theorem rawPrefix_decides_myTag :
    KeptStart "1 < 2".toList "SCRIPT-x a='>'>".toList "<b></script >".toList ∧
      (∃ name attrs,
        (∀ more, markupAt? ("SCRIPT-x a='>'>".toList ++ more) =
          some (some (.open name attrs), 15)) ∧
          '<' :: ("SCRIPT-x a='>'>".toList ++
            if rawPrefix name ∈ rawTextNames then escapeRaw (rawPrefix name) "<b></script >".toList
            else escapeStray "<b></script >".toList) <:+
              escapeStray "1 < 2<SCRIPT-x a='>'><b></script >".toList) ∧
      parse? ("<" ++ myTag.name ++ ">" ++
          String.join ([.text "1 < 2", .element "br" .empty []].map Node.outerHtml) ++
            "</" ++ myTag.name ++ ">") =
        some [.element myTag.name .empty [.text "1 < 2", .element "br" .empty []]] := by
  have hkept : KeptStart "1 < 2".toList "SCRIPT-x a='>'>".toList "<b></script >".toList :=
    ⟨⟨by decide +kernel, by decide +kernel⟩, ⟨'S', rfl, by decide⟩, by decide⟩
  have hlegible : ∀ m ∈ [Node.text "1 < 2", .element "br" .empty []], m.Legible := by
    simp only [List.forall_mem_cons]
    exact ⟨.text _, .void (by decide) (by decide) (by decide), by simp⟩
  have htidy : Tidy [.text "1 < 2", .element "br" .empty []] :=
    .text (by decide) (by simp) (.element .nil .nil)
  obtain ⟨hraw, hread⟩ := rawPrefix_decides hkept myTag hlegible htidy
  exact ⟨hkept, hraw, hread.2 (by decide)⟩

/-- A `script-x` is no `script`, but what it holds is taken for raw text, and so is its end tag. -/
theorem scriptX_not_read :
    KeptStart [] "script-x>".toList "a<b>c</b></script-x>".toList ∧
      (∀ more, markupAt? ("script-x>".toList ++ more) =
        some (some (.open "script-x" .empty), 9)) ∧
      "script-x" ∉ rawTextNames ∧
      escapeStray "<script-x>a<b>c</b></script-x>".toList =
        "<script-x>a&lt;b>c&lt;/b>&lt;/script-x>".toList ∧
      parse? "<script-x>a<b>c</b></script-x>" =
        some [.element "script-x" .empty [.text "a<b>c</b></script-x>"]] ∧
      parse? "<script-x>a<b>c</b></script-x>" ≠
        some [.element "script-x" .empty [.text "a", .element "b" .empty [.text "c"]]] := by
  have hread : markupAt? "script-x>".toList = some (some (.open "script-x" .empty), 9) := by
    decide +kernel
  exact ⟨⟨⟨by decide +kernel, by decide +kernel⟩, ⟨'s', rfl, by decide⟩, by decide⟩,
    markupAt?_more hread, by decide, by decide +kernel, by decide +kernel, by decide +kernel⟩

end Markup

end PagePress
