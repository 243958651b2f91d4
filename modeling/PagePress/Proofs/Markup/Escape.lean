import PagePress.Proofs.Markup.Tag

/-!
# Escaping — what becomes of written HTML before it is read

The HTML of a legible node holds no stray `<` outside raw text elements, so that escaping keeps
all of it but the content of a `script` or a `style`.

* `rewritten` is what a written node becomes;
* `escapeFrom_html`: escaping rewrites a written node wherever it stands in ordinary text.
-/

namespace PagePress

namespace Markup

open View (Node isElementName isAttributeName isElementName_chars isLower_ne tagBody startTagHtml
  startTagHtml_eq endTagHtml endTagStart escapeText attrsHtml isVoid rawTextTags rawPrefix
  lower_tagName)

/-! ## Rewritten nodes -/

mutual

/-- What the HTML of a node becomes. -/
def rewritten : Node → List Char
  | .element t as cs =>
    if isVoid t then startTagHtml t as
    else if rawTextTags.contains t then
      startTagHtml t as ++ (Node.htmlRaw cs).flatMap (escapeRawChar t) ++ endTagHtml t
    else startTagHtml t as ++ rewrittenAll cs ++ endTagHtml t
  | .text s => escapeText s

/-- What the HTML of a list of nodes becomes. -/
def rewrittenAll : List Node → List Char
  | [] => []
  | n :: ns => rewritten n ++ rewrittenAll ns

end

/-! ## Places -/

theorem escapeFrom_of_settle {p q : Place} {c : Char} {cs : List Char}
    (h : p.settle (c :: cs) = q.settle (c :: cs)) :
    escapeFrom p (c :: cs) = escapeFrom q (c :: cs) := by
  rw [escapeFrom, escapeFrom, h]

theorem escapeFrom_markup_none (cs : List Char) :
    escapeFrom (.markup 0 none) cs = escapeFrom .text cs := by
  cases cs with
  | nil => rfl
  | cons c cs => exact escapeFrom_of_settle rfl

theorem escapeFrom_markup_some (name : String) (cs : List Char) :
    escapeFrom (.markup 0 (some name)) cs = escapeFrom (.raw name) cs := by
  cases cs with
  | nil => rfl
  | cons c cs => exact escapeFrom_of_settle rfl

/-- The characters of a tag are kept. -/
theorem escapeFrom_markup (opens : Option String) (xs rest : List Char) :
    escapeFrom (.markup xs.length opens) (xs ++ rest) =
      xs ++ escapeFrom (.markup 0 opens) rest := by
  induction xs with
  | nil => rfl
  | cons c xs ih =>
      have hsettle : (Place.markup (xs.length + 1) opens).settle (c :: (xs ++ rest)) =
          .markup (xs.length + 1) opens := rfl
      rw [List.length_cons, List.cons_append, escapeFrom, hsettle]
      simp only [Nat.add_sub_cancel, ih, List.cons_append]

/-- Text without `<` is kept. -/
theorem escapeFrom_text {xs : List Char} (h : '<' ∉ xs) (rest : List Char) :
    escapeFrom .text (xs ++ rest) = xs ++ escapeFrom .text rest := by
  induction xs with
  | nil => rfl
  | cons c xs ih =>
      have hc : c ≠ '<' := fun e => h (e ▸ List.mem_cons_self ..)
      have hsettle : Place.text.settle (c :: (xs ++ rest)) = .text := rfl
      rw [List.cons_append, escapeFrom, hsettle]
      simp only [hc, if_false, ih fun hx => h (List.mem_cons_of_mem _ hx), List.cons_append]

/-- A tag is kept, and what it opens follows it. -/
theorem escapeFrom_tag {xs rest : List Char} (h : markupLength? (xs ++ rest) = some xs.length) :
    escapeFrom .text ('<' :: (xs ++ rest)) =
      '<' :: (xs ++ escapeFrom (.markup 0 (rawTextName? xs)) rest) := by
  have hsettle : Place.text.settle ('<' :: (xs ++ rest)) = .text := rfl
  rw [escapeFrom, hsettle]
  simp [h, escapeFrom_markup]

theorem lt_not_mem_escapeText (s : String) : '<' ∉ escapeText s := by
  intro h
  obtain ⟨c, -, hc⟩ := List.mem_flatMap.1 h
  unfold View.escapeTextChar at hc
  split at hc
  · revert hc
    decide
  · revert hc
    decide
  · revert hc
    decide
  · rename_i hlt _
    exact hlt (List.mem_singleton.1 hc).symm

/-! ## Tags -/

theorem tagLength?_close {xs : List Char} (rest : List Char) (h : scan none xs = some none) :
    tagLength? none (xs ++ '>' :: rest) = some (xs.length + 1) := by
  rw [tagLength?_append h]
  simp [tagLength?, Nat.add_comm]

/-- Where a letter comes first, a tag is measured. -/
theorem markupLength?_of_isAlpha {c : Char} {cs : List Char} (hc : c.isAlpha = true) :
    markupLength? (c :: cs) = tagLength? none (c :: cs) := by
  have hne := fun d hd => ne_of_isAlpha (d := d) hc hd
  rw [markupLength?, if_pos hc]
  · exact fun _ _ heq _ => absurd heq (hne '/' (by decide))
  · exact fun _ heq => absurd heq (hne '!' (by decide))
  · exact fun heq => absurd heq (hne '!' (by decide))
  · exact fun heq => absurd heq (hne '?' (by decide))

theorem markupLength?_tag {t : String} {cs rest : List Char} (ht : isElementName t = true)
    (hcs : AttrText cs) :
    markupLength? ((t.toList ++ cs ++ ['>']) ++ rest) = some (t.toList ++ cs ++ ['>']).length := by
  obtain ⟨c, ds, hname, hc, -⟩ := View.isName_iff.1 ht
  have hlength := tagLength?_close rest (scan_tag ht hcs)
  rw [List.append_assoc, List.singleton_append, List.length_append, List.length_singleton,
    ← hlength, hname]
  exact markupLength?_of_isAlpha (Text.isAlpha_iff.2 (.inr hc))

theorem takeWhile_isAlnum_of_notBlank (content : List Char) :
    (content.takeWhile fun c => !isTagBlank c).takeWhile Text.isAlnum =
      content.takeWhile Text.isAlnum := by
  have hblank : ∀ c, Text.isAlnum c = true → (!isTagBlank c) = true := by
    intro c hc
    have hne : ∀ d, Text.isAlnum d = false → c ≠ d := by
      rintro d hd rfl
      rw [hc] at hd
      cases hd
    simp [isTagBlank, hne ' ' (by decide), hne '\t' (by decide), hne '\n' (by decide),
      hne '\r' (by decide)]
  rw [List.takeWhile_takeWhile]
  congr 1
  funext c
  rw [Bool.eq_iff_iff, decide_eq_true_iff]
  exact and_iff_left_of_imp (hblank c)

/-- A tag opens raw text by the letters and digits that the reader's name starts with. -/
theorem rawTextName?_eq {content : List Char} (hhead : content.head? ≠ some '/')
    (hlast : content.getLast? ≠ some '/') :
    rawTextName? (content ++ ['>']) = rawTextNames.find? (· == rawPrefix (readName content)) := by
  have hname : (content ++ ['>']).takeWhile Text.isAlnum = content.takeWhile Text.isAlnum := by
    rw [List.takeWhile_append]
    split
    · rename_i hall
      rw [(List.takeWhile_prefix _).eq_of_length hall]
      exact List.append_nil content
    · rfl
  have hprefix : rawPrefix (readName content) =
      String.ofList (Text.lower ((content ++ ['>']).takeWhile Text.isAlnum)) := by
    rw [rawPrefix, readName, nameOf, String.toList_ofList, Text.takeWhile_isAlnum_lower,
      takeWhile_isAlnum_of_notBlank, hname]
  have hempty : ['>', '/'].isPrefixOf (content ++ ['>']).reverse = false := by
    rw [List.reverse_append, List.reverse_singleton, List.singleton_append]
    rw [← List.head?_reverse] at hlast
    cases hreverse : content.reverse with
    | nil => rfl
    | cons c cs =>
        have hc : '/' ≠ c := fun heq => hlast (by rw [hreverse, ← heq]; rfl)
        simp [List.isPrefixOf, hc]
  have hend : (content ++ ['>']).head? ≠ some '/' := by
    cases content with
    | nil => decide
    | cons c cs => exact hhead
  rw [rawTextName?, hprefix, if_neg (by simp only [hend, hempty]; decide)]

/-- A start tag opens the raw text element whose name it starts with. -/
theorem rawTextName?_tag {t : String} {cs : List Char} (ht : isElementName t = true)
    (hcs : AttrText cs) :
    rawTextName? (t.toList ++ cs ++ ['>']) = rawTextNames.find? (· == rawPrefix t) := by
  obtain ⟨c, ds, hname, hc, -⟩ := View.isName_iff.1 ht
  have hhead : (t.toList ++ cs).head? ≠ some '/' := by
    simp [hname, isLower_ne (d := '/') hc (by decide)]
  rw [rawTextName?_eq hhead (getLast?_tag ht hcs), readName_tag ht hcs]

/-- A start tag is kept, and what it opens follows it. -/
theorem escapeFrom_startTag {t : String} {cs : List Char} (ht : isElementName t = true)
    (hcs : AttrText cs) (rest : List Char) :
    escapeFrom .text ('<' :: (t.toList ++ cs ++ ['>'] ++ rest)) =
      '<' :: (t.toList ++ cs ++ ['>'] ++
        escapeFrom (.markup 0 (rawTextNames.find? (· == rawPrefix t))) rest) := by
  rw [escapeFrom_tag (markupLength?_tag ht hcs), rawTextName?_tag ht hcs]

/-! ## End tags -/

/-- What stands between `<` and `>` in an end tag. -/
def endBody (t : String) : List Char := '/' :: t.toList

theorem endTagHtml_eq (t : String) : endTagHtml t = '<' :: (endBody t ++ ['>']) := by
  simp [endTagHtml, endBody]

theorem scan_endBody {t : String} (ht : isElementName t = true) :
    scan none (endBody t) = some none := by
  simp [endBody, scan, scan_name (isElementName_chars ht)]

theorem markupLength?_endBody {t : String} {rest : List Char} (ht : isElementName t = true) :
    markupLength? ((endBody t ++ ['>']) ++ rest) = some (endBody t ++ ['>']).length := by
  obtain ⟨c, cs, hname, hc, -⟩ := View.isName_iff.1 ht
  have hlength := tagLength?_close rest (scan_endBody ht)
  rw [List.append_assoc, List.singleton_append, List.length_append, List.length_singleton,
    ← hlength, endBody, hname, List.cons_append, List.cons_append, markupLength?,
    if_pos (Text.isAlpha_iff.2 (.inr hc))]

theorem rawTextName?_endBody (t : String) : rawTextName? (endBody t ++ ['>']) = none := by
  simp [rawTextName?, endBody]

/-- An end tag is kept, and ordinary text follows it. -/
theorem escapeFrom_endTagHtml {t : String} {rest : List Char} (ht : isElementName t = true) :
    escapeFrom .text (endTagHtml t ++ rest) = endTagHtml t ++ escapeFrom .text rest := by
  rw [endTagHtml_eq, List.cons_append, escapeFrom_tag (markupLength?_endBody ht),
    rawTextName?_endBody, escapeFrom_markup_none, List.cons_append]

/-! ## Raw text -/

theorem startsWithLower_iff {word cs : List Char} :
    Text.startsWithLower word cs = true ↔ word <+: Text.lower cs := by
  unfold Text.startsWithLower Text.lower
  rw [List.isPrefixOf_iff_prefix, List.map_take, List.prefix_take_iff]
  exact and_iff_left le_rfl

theorem endsRawText_endTagHtml {t : String} (rest : List Char) (ht : isElementName t = true) :
    endsRawText t (endTagHtml t ++ rest) = true := by
  have hlower : Text.lower (endTagStart t) = endTagStart t := by
    have hname := lower_tagName ht
    unfold Text.lower at hname
    simp [Text.lower, endTagStart, hname]
  have hsplit : endTagHtml t ++ rest = endTagStart t ++ '>' :: rest := by
    simp [endTagHtml, endTagStart]
  have hstarts : Text.startsWithLower (endTagStart t) (endTagStart t ++ '>' :: rest) = true := by
    simp [Text.startsWithLower, hlower]
  have hdrop : (endTagStart t ++ '>' :: rest).drop (endTagStart t).length = '>' :: rest :=
    List.drop_left
  unfold endTagStart at hsplit hstarts hdrop
  simp only [endsRawText, hsplit, hstarts, hdrop, Bool.true_and, decide_true, Bool.true_or]

/-- Raw text in front of an end tag does not itself look like one. -/
theorem endsRawText_eq_false {t : String} {c : Char} {xs : List Char} (more : List Char)
    (ht : isElementName t = true) (h : ¬ endTagStart t <:+: Text.lower (c :: xs)) :
    endsRawText t (c :: xs ++ '<' :: more) = false := by
  have hlt : '<' ∉ '/' :: t.toList := by
    intro hmem
    rcases List.mem_cons.1 hmem with heq | hmem
    · cases heq
    · exact absurd (isElementName_chars ht _ hmem) (by decide)
  have hstarts : ¬ endTagStart t <+: Text.lower (c :: xs ++ '<' :: more) := by
    intro hpre
    have hlower : Text.lower (c :: xs ++ '<' :: more) =
        Text.lower (c :: xs) ++ '<' :: Text.lower more := by
      unfold Text.lower
      rw [List.map_append, List.map_cons]
      rfl
    rw [hlower] at hpre
    rcases List.prefix_or_prefix_of_prefix hpre (List.prefix_append ..) with hin | hout
    · exact h hin.isInfix
    · -- The end tag would have to start in the text and to hold another `<`.
      obtain ⟨m, hm⟩ := hout
      rw [← hm, List.prefix_append_right_inj] at hpre
      cases m with
      | nil => exact h ⟨[], [], by simpa using hm.symm⟩
      | cons d m =>
          obtain rfl : d = '<' := (List.cons_prefix_cons.1 hpre).1
          refine hlt ?_
          have htail : '/' :: t.toList = Text.lower xs ++ '<' :: m :=
            (List.cons.inj (hm.trans rfl)).2.symm
          simp [htail]
  have hfalse : Text.startsWithLower (endTagStart t) (c :: xs ++ '<' :: more) = false := by
    rw [← Bool.not_eq_true, startsWithLower_iff]
    exact hstarts
  unfold endTagStart at hfalse
  simp only [endsRawText, hfalse, Bool.false_and]

theorem escapeFrom_raw_cons {name : String} {c : Char} {rest : List Char}
    (h : endsRawText name (c :: rest) = false) :
    escapeFrom (.raw name) (c :: rest) = escapeRawChar name c ++ escapeFrom (.raw name) rest := by
  have hsettle : (Place.raw name).settle (c :: rest) = .raw name := by simp [Place.settle, h]
  rw [escapeFrom, hsettle]

/-- Raw text that does not hold the start of the end tag is rewritten up to the end tag. -/
theorem escapeFrom_raw {t : String} {xs rest : List Char} (ht : isElementName t = true)
    (h : ¬ endTagStart t <:+: Text.lower xs) :
    escapeFrom (.raw t) (xs ++ (endTagHtml t ++ rest)) =
      xs.flatMap (escapeRawChar t) ++ escapeFrom .text (endTagHtml t ++ rest) := by
  have hend : endTagHtml t ++ rest = '<' :: (endBody t ++ '>' :: rest) := by
    simp [endTagHtml_eq]
  induction xs with
  | nil =>
      have hends := endsRawText_endTagHtml rest ht
      rw [hend] at hends
      rw [List.nil_append, List.flatMap_nil, List.nil_append, hend]
      exact escapeFrom_of_settle (by simp [Place.settle, hends])
  | cons c xs ih =>
      -- The end tag does not start here, nor later in the text.
      have hends := endsRawText_eq_false (endBody t ++ '>' :: rest) ht h
      rw [List.cons_append, ← hend] at hends
      have htail : ¬ endTagStart t <:+: Text.lower xs :=
        fun hin => h (hin.trans (List.suffix_cons ..).isInfix)
      rw [List.cons_append, escapeFrom_raw_cons hends, ih htail, List.flatMap_cons,
        List.append_assoc]

/-- Only a `<` is lowered to one. -/
theorem eq_lt_of_toLower {c : Char} (h : c.toLower = '<') : c = '<' := by
  by_cases hupper : c.isUpper = true
  · -- A lowered capital is a small letter.
    have hcode : 65 ≤ c.toNat ∧ c.toNat ≤ 90 := Text.isUpper_iff.1 hupper
    have hlower : c.toNat + 32 = '<'.toNat := by rw [← Text.toNat_toLower hupper, h]
    have hlt : '<'.toNat = 60 := rfl
    omega
  · rwa [Text.toLower_of_isUpper_eq_false (by simpa using hupper)] at h

/-- Raw text without `<` does not hold the start of an end tag. -/
theorem not_infix_of_lt_not_mem {t : String} {xs : List Char} (h : '<' ∉ xs) :
    ¬ endTagStart t <:+: Text.lower xs := by
  intro hin
  have hmem : '<' ∈ Text.lower xs := hin.subset (List.mem_cons_self ..)
  obtain ⟨c, hc, heq⟩ := List.mem_map.1 hmem
  exact h (eq_lt_of_toLower heq ▸ hc)

/-- References stay live in a `textarea`. -/
theorem flatMap_escapeRawChar_textarea {xs : List Char} (h : '<' ∉ xs) :
    xs.flatMap (escapeRawChar "textarea") = xs := by
  induction xs with
  | nil => rfl
  | cons c xs ih =>
      have hc : c ≠ '<' := fun e => h (e ▸ List.mem_cons_self ..)
      rw [List.flatMap_cons, ih fun hx => h (List.mem_cons_of_mem _ hx)]
      simp [escapeRawChar, hc]

/-! ## Whole nodes -/

theorem escapeFrom_startTagHtml {t : String} {as : Dict String} {rest : List Char}
    (ht : isElementName t = true) (has : ∀ e ∈ as.entries, isAttributeName e.1 = true) :
    escapeFrom .text (startTagHtml t as ++ rest) =
      startTagHtml t as ++
        escapeFrom (.markup 0 (rawTextNames.find? (· == rawPrefix t))) rest := by
  rw [startTagHtml_eq, List.cons_append, List.cons_append]
  exact escapeFrom_startTag ht (attrText_attrsHtml has) rest

theorem find?_rawTextNames (s : String) :
    rawTextNames.find? (· == s) = if s ∈ rawTextNames then some s else none := by
  by_cases h : s ∈ rawTextNames
  · rw [if_pos h]
    revert s
    decide
  · rw [if_neg h, List.find?_eq_none]
    intro x hx heq
    exact h (beq_iff_eq.1 heq ▸ hx)

theorem escapeFrom_startTagHtml_text {t : String} {as : Dict String} {rest : List Char}
    (ht : isElementName t = true) (has : ∀ e ∈ as.entries, isAttributeName e.1 = true)
    (hraw : rawPrefix t ∉ rawTextNames) :
    escapeFrom .text (startTagHtml t as ++ rest) =
      startTagHtml t as ++ escapeFrom .text rest := by
  rw [escapeFrom_startTagHtml ht has, find?_rawTextNames, if_neg hraw, escapeFrom_markup_none]

theorem isElementName_of_rawTextNames {t : String} (h : t ∈ rawTextNames) :
    isElementName t = true ∧ isVoid t = false ∧
      rawTextNames.find? (· == rawPrefix t) = some t := by
  revert t
  decide

theorem rawPrefix_of_isVoid {t : String} (h : isVoid t = true) : rawPrefix t ∉ rawTextNames := by
  have hall : ∀ u ∈ View.voidTags, rawPrefix u ∉ rawTextNames := by decide
  exact hall t (List.contains_iff_mem.1 h)

theorem not_mem_rawTextNames {t : String} (h : rawPrefix t ∉ rawTextNames) :
    t ∉ rawTextNames := by
  have hall : ∀ u ∈ rawTextNames, rawPrefix u ∈ rawTextNames := by decide
  exact fun hmem => h (hall t hmem)

theorem contains_rawTextTags_eq_false {t : String} (h : t ∉ rawTextNames) :
    rawTextTags.contains t = false := by
  have hsub : ∀ u ∈ rawTextTags, u ∈ rawTextNames := by decide
  rw [← Bool.not_eq_true, List.contains_iff_mem]
  exact fun hmem => h (hsub t hmem)

theorem eq_textarea {t : String} (h : t ∈ rawTextNames) (htag : ¬ rawTextTags.contains t = true) :
    t = "textarea" := by
  revert t
  decide

theorem escapeFrom_startTagHtml_raw {t : String} {as : Dict String} {rest : List Char}
    (has : ∀ e ∈ as.entries, isAttributeName e.1 = true) (hraw : t ∈ rawTextNames) :
    escapeFrom .text (startTagHtml t as ++ rest) =
      startTagHtml t as ++ escapeFrom (.raw t) rest := by
  obtain ⟨ht, -, hfind⟩ := isElementName_of_rawTextNames hraw
  rw [escapeFrom_startTagHtml ht has, hfind, escapeFrom_markup_some]

theorem escapeFrom_htmlAll {ns : List Node}
    (h : ∀ n ∈ ns, ∀ rest, escapeFrom .text (n.html ++ rest) =
      rewritten n ++ escapeFrom .text rest) (rest : List Char) :
    escapeFrom .text (Node.htmlAll ns ++ rest) =
      rewrittenAll ns ++ escapeFrom .text rest := by
  induction ns with
  | nil => rfl
  | cons n ns ih =>
      rw [Node.htmlAll, rewrittenAll, List.append_assoc, List.append_assoc,
        h n (List.mem_cons_self ..), ih fun m hm => h m (List.mem_cons_of_mem _ hm)]

/-- Escaping rewrites a written node wherever it stands in ordinary text. -/
theorem escapeFrom_html {n : Node} (h : n.Legible) :
    ∀ rest, escapeFrom .text (n.html ++ rest) = rewritten n ++ escapeFrom .text rest := by
  induction h with
  | text s =>
      intro rest
      exact escapeFrom_text (lt_not_mem_escapeText s) rest
  | @void t as ht has hvoid =>
      intro rest
      simp only [Node.html, rewritten, hvoid, if_true]
      exact escapeFrom_startTagHtml_text ht has (rawPrefix_of_isVoid hvoid)
  | @raw t as cs hraw has hcs =>
      intro rest
      obtain ⟨ht, hvoid, -⟩ := isElementName_of_rawTextNames hraw
      by_cases htag : rawTextTags.contains t = true
      · -- The text of a `script` or a `style` is written as it is, and then escaped.
        have hend : ¬ endTagStart t <:+: Text.lower (Node.htmlRaw cs) := by
          rcases hcs with rfl | ⟨s, rfl, hs⟩
          · exact not_infix_of_lt_not_mem (by simp [Node.htmlRaw])
          · simpa [Node.htmlRaw] using hs (by simpa using htag)
        simp only [Node.html, rewritten, hvoid, htag, if_true, Bool.false_eq_true, if_false,
          List.append_assoc]
        rw [escapeFrom_startTagHtml_raw has hraw, escapeFrom_raw ht hend,
          escapeFrom_endTagHtml ht]
      · -- The text of a `textarea` is written with references, which are kept.
        have hlt : '<' ∉ Node.htmlAll cs := by
          rcases hcs with rfl | ⟨s, rfl, -⟩
          · simp [Node.htmlAll]
          · simpa [Node.htmlAll, Node.html] using lt_not_mem_escapeText s
        obtain rfl : t = "textarea" := eq_textarea hraw htag
        have hrewritten : rewrittenAll cs = Node.htmlAll cs := by
          rcases hcs with rfl | ⟨s, rfl, -⟩ <;> rfl
        simp only [Node.html, rewritten, hvoid, htag, Bool.false_eq_true, if_false,
          List.append_assoc]
        rw [escapeFrom_startTagHtml_raw has hraw, escapeFrom_raw ht (not_infix_of_lt_not_mem hlt),
          escapeFrom_endTagHtml ht, flatMap_escapeRawChar_textarea hlt, hrewritten]
  | @element t as cs ht has hvoid hraw _ ih =>
      intro rest
      have htag := contains_rawTextTags_eq_false (not_mem_rawTextNames hraw)
      simp only [Node.html, rewritten, hvoid, htag, Bool.false_eq_true, if_false,
        List.append_assoc]
      rw [escapeFrom_startTagHtml_text ht has hraw, escapeFrom_htmlAll ih,
        escapeFrom_endTagHtml ht]

/-- What the HTML of legible nodes becomes. -/
theorem escapeStray_htmlAll {ns : List Node} (h : ∀ n ∈ ns, n.Legible) :
    escapeStray (Node.htmlAll ns) = rewrittenAll ns := by
  have hall := escapeFrom_htmlAll (fun n hn => escapeFrom_html (h n hn)) []
  simpa [escapeStray, escapeFrom] using hall

end Markup

end PagePress
