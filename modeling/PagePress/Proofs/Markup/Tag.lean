import Mathlib.Data.List.DropRight
import PagePress.Markup.Token
import PagePress.Proofs.Dictionary
import PagePress.Proofs.Text.Ascii
import PagePress.Proofs.View.Tidy

/-!
# Tags — reading the tags that are written

* `scan` tells whether characters stay inside a tag, and in which quotes they leave it; both
  measures of a tag, `tagLength?` and `tagContentLength?`, pass over such characters;
* `exists_of_tagLength?` takes a tag apart that the first of them finds, and `markupAt?_startTag`
  and `markupAt?_endTag` read it;
* `AttrText` is what may follow the name in a start tag, `attrText_attrsHtml` and
  `attrText_quotedHtml` are attributes that do;
* `attributes_attrsHtml`: the attributes that are written are the attributes that are read;
* `ofTag_tag` and `ofEndTag_name` are the tokens of written tags.
-/

namespace PagePress

namespace View

/-! ## Characters of names -/

/-- A character of a name is none outside the class. -/
theorem isNameChar_ne {c d : Char} (h : isNameChar c = true) (hd : isNameChar d = false) :
    c ≠ d := by
  rintro rfl
  rw [h] at hd
  cases hd

theorem isLower_ne {c d : Char} (h : c.isLower = true) (hd : d.isLower = false) : c ≠ d := by
  rintro rfl
  rw [h] at hd
  cases hd

theorem isNameChar_of_isLower {c : Char} (h : c.isLower = true) : isNameChar c = true := by
  have hsigns : [' ', '\t', '\n', '\r', '<', '>', '"', '\'', '/', '='].contains c = false := by
    have hne := fun d => isLower_ne (d := d) h
    simp [hne ' ' (by decide), hne '\t' (by decide), hne '\n' (by decide), hne '\r' (by decide),
      hne '<' (by decide), hne '>' (by decide), hne '"' (by decide), hne '\'' (by decide),
      hne '/' (by decide), hne '=' (by decide)]
  have hupper : c.isUpper = false := by
    rw [Text.isLower_iff] at h
    rw [← Bool.not_eq_true, Text.isUpper_iff]
    omega
  rw [isNameChar, hsigns, hupper]
  rfl

theorem isUpper_of_isNameChar {c : Char} (h : isNameChar c = true) : c.isUpper = false := by
  rw [isNameChar, Bool.not_eq_true', Bool.or_eq_false_iff] at h
  exact h.2

theorem lower_of_isNameChar {cs : List Char} (h : ∀ c ∈ cs, isNameChar c = true) :
    Text.lower cs = cs :=
  Text.lower_eq_self fun c hc => isUpper_of_isNameChar (h c hc)

theorem isElementName_chars {s : String} (h : isElementName s = true) :
    ∀ c ∈ s.toList, isNameChar c = true := by
  obtain ⟨c, cs, hs, hc, hcs⟩ := isName_iff.1 h
  intro d hd
  rw [hs] at hd
  rcases List.mem_cons.1 hd with rfl | hd
  · exact isNameChar_of_isLower hc
  · exact hcs d hd

theorem isAttributeName_iff {s : String} :
    isAttributeName s = true ↔ s.toList ≠ [] ∧ ∀ c ∈ s.toList, isNameChar c = true := by
  simp [isAttributeName]

theorem isAttributeName_chars {s : String} (h : isAttributeName s = true) :
    ∀ c ∈ s.toList, isNameChar c = true :=
  (isAttributeName_iff.1 h).2

theorem exists_cons_of_isAttributeName {s : String} (h : isAttributeName s = true) :
    ∃ c cs, s.toList = c :: cs :=
  List.exists_cons_of_ne_nil (isAttributeName_iff.1 h).1

theorem lower_tagName {s : String} (h : isElementName s = true) :
    Text.lower s.toList = s.toList :=
  lower_of_isNameChar (isElementName_chars h)

/-! ## Plain names -/

theorem isNameChar_of_isAttrChar {c : Char} (h : isAttrChar c = true) : isNameChar c = true := by
  rw [isAttrChar, isTagChar, Bool.or_eq_true, Bool.or_eq_true, decide_eq_true_iff] at h
  rcases h with (h | h) | rfl
  · exact isNameChar_of_isLower h
  · -- The digits lie apart from the signs and from the capitals.
    have hdigit : ∀ n < 10, isNameChar (Char.ofNat (48 + n)) = true := by decide
    have hcode : 48 ≤ c.toNat ∧ c.toNat ≤ 57 := Char.isDigit_iff_toNat.1 h
    have hc := hdigit (c.toNat - 48) (by omega)
    rwa [show 48 + (c.toNat - 48) = c.toNat by omega, Char.ofNat_toNat] at hc
  · decide

theorem isElementName_of_isTagName {s : String} (h : isTagName s = true) :
    isElementName s = true := by
  obtain ⟨c, cs, hs, hc, hcs⟩ := isName_iff.1 h
  exact isName_iff.2 ⟨c, cs, hs, hc, fun d hd =>
    isNameChar_of_isAttrChar (Bool.or_eq_true _ _ ▸ .inl (hcs d hd))⟩

theorem isAttributeName_of_isAttrName {s : String} (h : isAttrName s = true) :
    isAttributeName s = true := by
  obtain ⟨c, cs, hs, hc, hcs⟩ := isName_iff.1 h
  rw [isAttributeName_iff, hs, List.forall_mem_cons]
  exact ⟨List.cons_ne_nil _ _, isNameChar_of_isLower hc,
    fun d hd => isNameChar_of_isAttrChar (hcs d hd)⟩

theorem isAlnum_of_isTagChar {c : Char} (h : isTagChar c = true) : Text.isAlnum c = true := by
  rcases Bool.or_eq_true .. ▸ h with h | h
  · exact Text.isAlnum_iff.2 (.inr (.inl h))
  · exact Text.isAlnum_iff.2 (.inr (.inr h))

theorem isAlnum_of_isTagName {s : String} (h : isTagName s = true) :
    ∀ c ∈ s.toList, Text.isAlnum c = true := by
  obtain ⟨c, cs, hs, hc, hcs⟩ := isName_iff.1 h
  rw [hs, List.forall_mem_cons]
  exact ⟨Text.isAlnum_iff.2 (.inr (.inl hc)), fun d hd => isAlnum_of_isTagChar (hcs d hd)⟩

/-- A plain name is what it starts with. -/
theorem rawPrefix_of_isTagName {s : String} (h : isTagName s = true) : rawPrefix s = s := by
  rw [rawPrefix, List.takeWhile_eq_self_iff.2 (isAlnum_of_isTagName h), String.ofList_toList]

/-- Nodes with plain names are legible. -/
theorem Node.Writable.legible {n : Node} (h : n.Writable) : n.Legible := by
  have hattrs : ∀ {as : Dict String}, (∀ e ∈ as.entries, isAttrName e.1 = true) →
      ∀ e ∈ as.entries, isAttributeName e.1 = true :=
    fun has e he => isAttributeName_of_isAttrName (has e he)
  induction h with
  | text s => exact .text s
  | void ht has hvoid => exact .void (isElementName_of_isTagName ht) (hattrs has) hvoid
  | raw hraw has hcs => exact .raw hraw (hattrs has) hcs
  | element ht has hvoid hraw _ ih =>
      refine .element (isElementName_of_isTagName ht) (hattrs has) hvoid ?_ ih
      rwa [rawPrefix_of_isTagName ht]

/-! ## Written tags -/

theorem quote_not_mem_escapeAttr (v : String) : '"' ∉ escapeAttr v := by
  intro h
  obtain ⟨c, -, hc⟩ := List.mem_flatMap.1 h
  unfold escapeAttrChar at hc
  split at hc
  · revert hc
    decide
  · rename_i hne
    -- What is no quote does not become one: a reference holds none, and the rest stays.
    unfold escapeTextChar at hc
    split at hc
    · revert hc
      decide
    · revert hc
      decide
    · revert hc
      decide
    · exact hne (List.mem_singleton.1 hc).symm

/-- What stands between `<` and `>` in a start tag. -/
def tagBody (t : String) (as : Dict String) : List Char := t.toList ++ attrsHtml as

theorem startTagHtml_eq (t : String) (as : Dict String) :
    startTagHtml t as = '<' :: (tagBody t as ++ ['>']) := by
  simp [startTagHtml, tagBody]

end View

namespace Markup

open View

/-! ## Scanning -/

/-- The quotes in which characters leave the tag they stand in; none if they end the tag. -/
def scan (quote : Option Char) : List Char → Option (Option Char)
  | [] => some quote
  | c :: cs =>
    match quote with
    | some q => scan (if c = q then none else some q) cs
    | none =>
      if c = '>' || c = '<' then none
      else scan (if c = '"' || c = '\'' then some c else none) cs

theorem scan_append (xs ys : List Char) :
    ∀ q, scan q (xs ++ ys) = (scan q xs).bind fun q' => scan q' ys := by
  induction xs with
  | nil =>
      intro q
      rfl
  | cons c xs ih =>
      intro q
      cases q with
      | some q => simp [scan, ih]
      | none => by_cases h : c = '>' || c = '<' <;> simp [scan, ih, h]

theorem tagLength?_append {xs ys : List Char} :
    ∀ {q q'}, scan q xs = some q' →
      tagLength? q (xs ++ ys) = (tagLength? q' ys).map (· + xs.length) := by
  induction xs with
  | nil =>
      intro q q' h
      cases h
      simp
  | cons c xs ih =>
      intro q q' h
      cases q with
      | some q =>
          simp only [scan] at h
          simp [tagLength?, ih h, Function.comp_def, Nat.add_assoc]
      | none =>
          by_cases hc : c = '>' || c = '<'
          · -- Outside quotes, scanning does not pass over an end of the tag.
            simp [scan, hc] at h
          · rw [scan, if_neg hc] at h
            have hne : c ≠ '>' ∧ c ≠ '<' := by simpa using hc
            rw [List.cons_append, tagLength?, if_neg hne.1, if_neg hne.2, ih h]
            simp [Function.comp_def, Nat.add_assoc]

/-- A tag is measured up to the first `>` outside quotes. -/
theorem exists_of_tagLength? {cs : List Char} :
    ∀ {q : Option Char} {n : Nat}, tagLength? q cs = some n →
      ∃ content rest, cs = content ++ '>' :: rest ∧ n = content.length + 1 ∧
        scan q content = some none := by
  induction cs with
  | nil =>
      intro q n h
      cases h
  | cons c cs ih =>
      intro q n h
      cases q with
      | some q =>
          rw [tagLength?] at h
          obtain ⟨m, hm, rfl⟩ := Option.map_eq_some_iff.1 h
          obtain ⟨content, rest, rfl, rfl, hscan⟩ := ih hm
          exact ⟨c :: content, rest, rfl, rfl, hscan⟩
      | none =>
          rw [tagLength?] at h
          split at h
          · rename_i hclose
            cases h
            exact ⟨[], cs, by rw [hclose]; rfl, rfl, rfl⟩
          · rename_i hclose
            split at h
            · cases h
            · rename_i hopen
              obtain ⟨m, hm, rfl⟩ := Option.map_eq_some_iff.1 h
              obtain ⟨content, rest, rfl, rfl, hscan⟩ := ih hm
              refine ⟨c :: content, rest, rfl, rfl, ?_⟩
              rw [scan, if_neg (by simp [hclose, hopen]), hscan]

theorem tagContentLength?_append {xs ys : List Char} :
    ∀ {q q'}, scan q xs = some q' →
      tagContentLength? q (xs ++ ys) = (tagContentLength? q' ys).map (· + xs.length) := by
  induction xs with
  | nil =>
      intro q q' h
      cases h
      simp
  | cons c xs ih =>
      intro q q' h
      cases q with
      | some q =>
          simp only [scan] at h
          simp [tagContentLength?, ih h, Function.comp_def, Nat.add_assoc]
      | none =>
          by_cases hc : c = '>' || c = '<'
          · simp [scan, hc] at h
          · rw [scan, if_neg hc] at h
            have hne : c ≠ '>' ∧ c ≠ '<' := by simpa using hc
            rw [List.cons_append, tagContentLength?, if_neg hne.1, ih h]
            simp [Function.comp_def, Nat.add_assoc]

theorem tagContentLength?_close {xs : List Char} (rest : List Char) (h : scan none xs = some none) :
    tagContentLength? none (xs ++ '>' :: rest) = some xs.length := by
  rw [tagContentLength?_append h]
  simp [tagContentLength?]

theorem ne_of_isAlpha {c d : Char} (hc : c.isAlpha = true) (hd : d.isAlpha = false) : c ≠ d := by
  rintro rfl
  rw [hc] at hd
  cases hd

/-- What starts with none of the signs of other markup is read as a start tag. -/
theorem markupAt?_tag {c : Char} {cs : List Char} (hbang : c ≠ '!') (hquestion : c ≠ '?')
    (hslash : c ≠ '/') :
    markupAt? (c :: cs) = (tagContentLength? none (c :: cs)).bind fun n =>
      some (some (.ofTag ((c :: cs).take n)), n + 1) := by
  rw [markupAt?]
  · rfl
  all_goals simp [hbang, hquestion, hslash]

/-- A start tag is read up to the first `>` outside quotes. -/
theorem markupAt?_startTag {c : Char} {cs : List Char} (hc : c.isAlpha = true)
    (hscan : scan none (c :: cs) = some none) (rest : List Char) :
    markupAt? (c :: cs ++ '>' :: rest) = some (some (.ofTag (c :: cs)), cs.length + 2) := by
  have hlength := tagContentLength?_close rest hscan
  rw [List.cons_append] at hlength ⊢
  rw [markupAt?_tag (ne_of_isAlpha hc (by decide)) (ne_of_isAlpha hc (by decide))
    (ne_of_isAlpha hc (by decide)), hlength, ← List.cons_append, Option.bind_some, List.take_left]
  rfl

theorem markupAt?_endTag {cs : List Char} (hscan : scan none cs = some none) (rest : List Char) :
    markupAt? ('/' :: (cs ++ '>' :: rest)) = some (some (.ofEndTag cs), cs.length + 2) := by
  rw [markupAt?, tagContentLength?_close rest hscan]
  simp

/-- What starts with another character than the end of a tag has content in front of that. -/
theorem exists_cons_of_append_close {c : Char} {cs content rest : List Char}
    (h : c :: cs = content ++ '>' :: rest) (hc : c ≠ '>') : ∃ ds, content = c :: ds := by
  cases content with
  | nil => exact absurd (List.cons.inj h).1 hc
  | cons d ds => exact ⟨ds, by rw [(List.cons.inj h).1]⟩

theorem scan_name {xs : List Char} (h : ∀ c ∈ xs, isNameChar c = true) :
    scan none xs = some none := by
  induction xs with
  | nil => rfl
  | cons c xs ih =>
      have hc := h c (List.mem_cons_self ..)
      have hne := fun d hd => isNameChar_ne (d := d) hc hd
      simp [scan, hne '>' (by decide), hne '<' (by decide), hne '"' (by decide),
        hne '\'' (by decide), ih fun d hd => h d (List.mem_cons_of_mem _ hd)]

theorem scan_quoted {xs : List Char} (h : '"' ∉ xs) : scan (some '"') xs = some (some '"') := by
  induction xs with
  | nil => rfl
  | cons c xs ih =>
      have hc : c ≠ '"' := fun e => h (e ▸ List.mem_cons_self ..)
      simp [scan, hc, ih fun hx => h (List.mem_cons_of_mem _ hx)]

/-! ## Attributes as they are written -/

/-- What may follow the name in a start tag: a blank comes first, no quotes are left open, and no
slash comes last. -/
structure AttrText (cs : List Char) : Prop where
  blank : ∀ c ∈ cs.head?, isTagBlank c = true
  scan : scan none cs = some none
  last : cs.getLast? ≠ some '/'

theorem AttrText.nil : AttrText [] := ⟨by simp, rfl, by simp⟩

theorem AttrText.append {xs ys : List Char} (hx : AttrText xs) (hy : AttrText ys) :
    AttrText (xs ++ ys) := by
  refine ⟨?_, by rw [scan_append, hx.scan]; exact hy.scan, ?_⟩
  · cases xs with
    | nil => exact hy.blank
    | cons c xs => exact hx.blank
  · cases hlast : ys.getLast? with
    | none =>
        rw [List.getLast?_eq_none_iff.1 hlast, List.append_nil]
        exact hx.last
    | some c =>
        rw [List.getLast?_append, hlast, Option.some_or, ← hlast]
        exact hy.last

/-- An attribute with a quoted value, as it is written. -/
def quotedHtml (k : String) (raw : List Char) : List Char :=
  ' ' :: k.toList ++ '=' :: '"' :: (raw ++ ['"'])

theorem attrHtml_eq {k v : String} (h : ¬ (v.isEmpty && booleanAttributes.contains k) = true) :
    attrHtml k v = quotedHtml k (escapeAttr v) := by
  rw [attrHtml, if_neg h, quotedHtml]
  simp

theorem attrText_name {k : String} (hk : isAttributeName k = true) :
    AttrText (' ' :: k.toList) := by
  obtain ⟨c, ks, hname⟩ := exists_cons_of_isAttributeName hk
  refine ⟨by simp [isTagBlank], by simp [scan, scan_name (isAttributeName_chars hk)], ?_⟩
  rw [hname, List.getLast?_cons_cons]
  intro h
  have hslash : isNameChar '/' = true :=
    isAttributeName_chars hk _ (hname ▸ List.mem_of_getLast? h)
  revert hslash
  decide

theorem attrText_quotedHtml {k : String} {raw : List Char} (hk : isAttributeName k = true)
    (hraw : '"' ∉ raw) : AttrText (quotedHtml k raw) := by
  refine ⟨by simp [quotedHtml, isTagBlank], ?_, ?_⟩
  · rw [quotedHtml, scan_append, (attrText_name hk).scan]
    simp [scan, scan_append, scan_quoted hraw]
  · rw [quotedHtml, ← List.cons_append, ← List.cons_append, ← List.append_assoc,
      List.getLast?_concat]
    decide

theorem attrText_attrHtml {k v : String} (hk : isAttributeName k = true) :
    AttrText (attrHtml k v) := by
  by_cases hbool : (v.isEmpty && booleanAttributes.contains k) = true
  · rw [attrHtml, if_pos hbool]
    exact attrText_name hk
  · rw [attrHtml_eq hbool]
    exact attrText_quotedHtml hk (quote_not_mem_escapeAttr v)

theorem attrText_entries {es : List (String × String)} (h : ∀ e ∈ es, isAttributeName e.1 = true) :
    AttrText (es.flatMap fun e => attrHtml e.1 e.2) := by
  induction es with
  | nil => exact .nil
  | cons e es ih =>
      rw [List.forall_mem_cons] at h
      exact (attrText_attrHtml h.1).append (ih h.2)

theorem attrText_attrsHtml {as : Dict String} (h : ∀ e ∈ as.entries, isAttributeName e.1 = true) :
    AttrText (attrsHtml as) :=
  attrText_entries h

/-! ## Attribute values -/

/-- The name of a reference is read up to its semicolon. -/
theorem unescapeFrom?_name {name : List Char} (rest : List Char) :
    ∀ (read : List Char), '&' ∉ name → ';' ∉ name →
      Reference.unescapeFrom? (some read) (name ++ ';' :: rest) =
        (Reference.attrText? (read.reverse ++ name)).bind fun out =>
          (Reference.unescapeFrom? none rest).map (out ++ ·) := by
  induction name with
  | nil =>
      intro read _ _
      cases h : Reference.attrText? read.reverse <;>
        cases h' : Reference.unescapeFrom? none rest <;>
          simp [Reference.unescapeFrom?, h, h']
  | cons c name ih =>
      intro read hamp hsemi
      have hc : c ≠ '&' ∧ c ≠ ';' :=
        ⟨fun e => hamp (e ▸ List.mem_cons_self ..), fun e => hsemi (e ▸ List.mem_cons_self ..)⟩
      have hrest := ih (c :: read) (fun h => hamp (List.mem_cons_of_mem _ h))
        (fun h => hsemi (List.mem_cons_of_mem _ h))
      rw [List.cons_append, Reference.unescapeFrom?]
      simp only [hc, if_false, hrest, List.reverse_cons, List.append_assoc, List.singleton_append]

/-- A reference to a character is resolved. -/
theorem unescapeFrom?_reference (name : List Char) {rest : List Char} {d : Char} (hamp : '&' ∉ name)
    (hsemi : ';' ∉ name) (hname : Reference.attrText? name = some [d]) :
    Reference.unescapeFrom? none ('&' :: (name ++ ';' :: rest)) =
      (Reference.unescapeFrom? none rest).map (d :: ·) := by
  have hread := unescapeFrom?_name rest [] hamp hsemi
  simp only [List.reverse_nil, List.nil_append, hname, Option.bind_some,
    List.singleton_append] at hread
  simp [Reference.unescapeFrom?, hread]

theorem unescapeFrom?_escapeAttrChar (c : Char) (rest : List Char) :
    Reference.unescapeFrom? none (escapeAttrChar c ++ rest) =
      (Reference.unescapeFrom? none rest).map (c :: ·) := by
  unfold escapeAttrChar
  split
  · exact unescapeFrom?_reference "quot".toList (by decide) (by decide) (by decide)
  · unfold escapeTextChar
    split
    · exact unescapeFrom?_reference "amp".toList (by decide) (by decide) (by decide)
    · exact unescapeFrom?_reference "lt".toList (by decide) (by decide) (by decide)
    · exact unescapeFrom?_reference "gt".toList (by decide) (by decide) (by decide)
    · rename_i hamp _ _
      have hne : c ≠ '&' := fun e => hamp e
      simp [Reference.unescapeFrom?, hne]

theorem unescape?_escapeAttr (v : String) : Reference.unescape? (escapeAttr v) = some v.toList := by
  unfold Reference.unescape? escapeAttr
  induction v.toList with
  | nil => rfl
  | cons c cs ih => rw [List.flatMap_cons, unescapeFrom?_escapeAttrChar, ih, Option.map_some]

theorem attrValue_escapeAttr (v : String) : attrValue (escapeAttr v) = v := by
  simp [attrValue, unescape?_escapeAttr]

/-! ## Attributes -/

theorem isTagBlank_of_isNameChar {c : Char} (h : isNameChar c = true) : isTagBlank c = false := by
  simp [isTagBlank, isNameChar_ne h (d := ' ') (by decide), isNameChar_ne h (d := '\t') (by decide),
    isNameChar_ne h (d := '\n') (by decide), isNameChar_ne h (d := '\r') (by decide)]

theorem nameOf_toList {s : String} (h : ∀ c ∈ s.toList, isNameChar c = true) :
    nameOf s.toList = s := by
  rw [nameOf, lower_of_isNameChar h, String.ofList_toList]

/-- What follows an attribute that is written: the end, or a blank and a name. -/
def Follows (rest : List Char) : Prop :=
  rest = [] ∨ ∃ c cs, rest = ' ' :: c :: cs ∧ isNameChar c = true

theorem attributesFrom_dropWhile (fuel : Nat) (seen : List (List Char)) (cs : List Char) :
    attributesFrom fuel seen (cs.dropWhile isTagBlank) = attributesFrom fuel seen cs := by
  cases fuel with
  | zero => rfl
  | succ fuel =>
      rw [attributesFrom, attributesFrom, List.dropWhile_idempotent]

/-- Whether a character belongs to a key. -/
def inKey (c : Char) : Bool := c != '=' && !isTagBlank c

theorem inKey_of_isNameChar {c : Char} (h : isNameChar c = true) : inKey c = true := by
  simp [inKey, isNameChar_ne h (d := '=') (by decide), isTagBlank_of_isNameChar h]

theorem takeWhile_inKey {ks : List Char} (rest : List Char) (hks : ∀ c ∈ ks, isNameChar c = true)
    (hrest : ∀ c ∈ rest.head?, inKey c = false) :
    (ks ++ rest).takeWhile inKey = ks ∧ (ks ++ rest).dropWhile inKey = rest :=
  Text.takeWhile_append_stop (fun c hc => inKey_of_isNameChar (hks c hc)) hrest

/-- A name as a key: no blank comes first, and it is its own name. -/
theorem exists_key {k : String} (hk : isAttributeName k = true) :
    ∃ c ks, k.toList = c :: ks ∧ isTagBlank c = false ∧ (∀ d ∈ ks, isNameChar d = true) ∧
      nameOf (c :: ks) = k := by
  obtain ⟨c, ks, hname⟩ := exists_cons_of_isAttributeName hk
  have hchars := isAttributeName_chars hk
  have hself := nameOf_toList hchars
  rw [hname] at hchars hself
  rw [List.forall_mem_cons] at hchars
  exact ⟨c, ks, hname, isTagBlank_of_isNameChar hchars.1, hchars.2, hself⟩

/-- A name with a quoted value is read up to the second quote. -/
theorem attributesFrom_quotedHtml {fuel : Nat} {seen : List (List Char)} {k : String}
    {raw : List Char} (hk : isAttributeName k = true) (hseen : k.toList ∉ seen) (hraw : '"' ∉ raw)
    (rest : List Char) :
    attributesFrom (fuel + 1) seen (quotedHtml k raw ++ rest) =
      (k, attrValue raw) :: attributesFrom fuel (k.toList :: seen) rest := by
  obtain ⟨c, ks, hname, hblank, hks, hself⟩ := exists_key hk
  have hspace : isTagBlank ' ' = true := by decide
  have hnew : c :: ks ∉ seen := hname ▸ hseen
  have hkey := takeWhile_inKey ('=' :: '"' :: (raw ++ '"' :: rest)) hks (by simp [inKey])
  have hdrop : (quotedHtml k raw ++ rest).dropWhile isTagBlank =
      c :: (ks ++ '=' :: '"' :: (raw ++ '"' :: rest)) := by
    rw [quotedHtml, hname]
    simp only [List.cons_append, List.append_assoc, List.dropWhile_cons, hspace, hblank, if_true,
      Bool.false_eq_true, if_false, List.nil_append]
  have hvalue : ∀ d ∈ raw, (d != '"') = true := by
    intro d hd
    have hne : d ≠ '"' := fun e => hraw (e ▸ hd)
    simpa using hne
  have htake : (raw ++ '"' :: rest).takeWhile (· != '"') = raw := by
    rw [List.takeWhile_append_of_pos hvalue]
    simp
  unfold inKey at hkey
  rw [attributesFrom, hdrop]
  simp only [hkey]
  simp [isTagBlank, hnew, htake, hself, hname]

/-- An attribute that is written is read. -/
theorem attributesFrom_attrHtml {fuel : Nat} {seen : List (List Char)} {k v : String}
    {rest : List Char} (hk : isAttributeName k = true) (hseen : k.toList ∉ seen)
    (hrest : Follows rest) :
    attributesFrom (fuel + 1) seen (attrHtml k v ++ rest) =
      (k, v) :: attributesFrom fuel (k.toList :: seen) rest := by
  by_cases hbool : (v.isEmpty && booleanAttributes.contains k) = true
  · -- The name stands alone, and what follows is no equals sign.
    obtain ⟨c, ks, hname, hblank, hks, hself⟩ := exists_key hk
    have hspace : isTagBlank ' ' = true := by decide
    have hnew : c :: ks ∉ seen := hname ▸ hseen
    have hv : v = "" := by simp at hbool; exact hbool.1
    have hhead : ∀ d ∈ rest.head?, inKey d = false := by
      rcases hrest with rfl | ⟨d, ds, rfl, -⟩
      · simp
      · simp [inKey, isTagBlank]
    have hkey := takeWhile_inKey rest hks hhead
    have hdrop : (attrHtml k v ++ rest).dropWhile isTagBlank = c :: (ks ++ rest) := by
      rw [attrHtml, if_pos hbool, hname]
      simp only [List.cons_append, List.dropWhile_cons, hspace, hblank, if_true,
        Bool.false_eq_true, if_false]
    unfold inKey at hkey
    rw [attributesFrom, hdrop]
    simp only [hkey]
    rcases hrest with rfl | ⟨d, ds, rfl, hd⟩
    · simp [hnew, hself, hv, hname]
    · have hnext : (' ' :: d :: ds).dropWhile isTagBlank = d :: ds := by
        simp only [List.dropWhile_cons, hspace, isTagBlank_of_isNameChar hd, if_true,
          Bool.false_eq_true, if_false]
      rw [← attributesFrom_dropWhile fuel _ (' ' :: d :: ds), hnext]
      split
      · rename_i heq
        cases heq
        cases hd
      · simp [hnew, hself, hv, hname]
  · rw [attrHtml_eq hbool, attributesFrom_quotedHtml hk hseen (quote_not_mem_escapeAttr v),
      attrValue_escapeAttr]

theorem attrHtml_ne_nil (k v : String) : 0 < (attrHtml k v).length := by
  unfold attrHtml
  split <;> simp

theorem follows_entries {es : List (String × String)} (h : ∀ e ∈ es, isAttributeName e.1 = true) :
    Follows (es.flatMap fun e => attrHtml e.1 e.2) := by
  cases es with
  | nil => exact .inl rfl
  | cons e es =>
      have he := h e (List.mem_cons_self ..)
      obtain ⟨c, ks, hname⟩ := exists_cons_of_isAttributeName he
      have hc : isNameChar c = true := isAttributeName_chars he c (by simp [hname])
      refine .inr ⟨c, ?_, ?_, hc⟩
      · exact ((attrHtml e.1 e.2).drop 2) ++ es.flatMap fun e => attrHtml e.1 e.2
      · rw [List.flatMap_cons]
        unfold attrHtml
        split <;> simp [hname]

theorem length_le_entries (es : List (String × String)) :
    es.length ≤ (es.flatMap fun e => attrHtml e.1 e.2).length := by
  induction es with
  | nil => simp
  | cons e es ih =>
      have hpos := attrHtml_ne_nil e.1 e.2
      rw [List.flatMap_cons, List.length_append, List.length_cons]
      omega

-- The names that were seen stay general: each attribute is read against those before it.
theorem attributesFrom_entries {es : List (String × String)} :
    ∀ {fuel : Nat} {seen : List (List Char)}, es.length < fuel →
      (∀ e ∈ es, isAttributeName e.1 = true) → (∀ e ∈ es, e.1.toList ∉ seen) →
      es.Pairwise (fun a b => a.1 ≠ b.1) →
      attributesFrom fuel seen (es.flatMap fun e => attrHtml e.1 e.2) = es := by
  induction es with
  | nil =>
      intro fuel seen hfuel _ _ _
      cases fuel with
      | zero => cases hfuel
      | succ fuel => simp [attributesFrom]
  | cons e es ih =>
      intro fuel seen hfuel hnames hseen hdistinct
      cases fuel with
      | zero => cases hfuel
      | succ fuel =>
          have hnames' : ∀ x ∈ es, isAttributeName x.1 = true :=
            fun x hx => hnames x (List.mem_cons_of_mem _ hx)
          have hpair := List.pairwise_cons.1 hdistinct
          have hrest : attributesFrom fuel (e.1.toList :: seen)
              (es.flatMap fun e => attrHtml e.1 e.2) = es := by
            refine ih (by simpa using hfuel) hnames' ?_ hpair.2
            -- No later name was seen: it differs from this one, and from those before it.
            intro x hx hmem
            rcases List.mem_cons.1 hmem with heq | hmem
            · exact hpair.1 x hx (String.toList_inj.1 heq.symm)
            · exact hseen x (List.mem_cons_of_mem _ hx) hmem
          rw [List.flatMap_cons, attributesFrom_attrHtml (hnames e (List.mem_cons_self ..))
            (hseen e (List.mem_cons_self ..)) (follows_entries hnames'), hrest]

/-- The attributes that are written are the attributes that are read. -/
theorem attributes_attrsHtml {as : Dict String} (h : ∀ e ∈ as.entries, isAttributeName e.1 = true) :
    attributes (attrsHtml as) = as := by
  have hdistinct : as.entries.Pairwise fun a b => a.1 ≠ b.1 := List.pairwise_map.1 as.nodup_keys
  -- The fuel is the length of the text, and each attribute has at least one character.
  have hlen := length_le_entries as.entries
  rw [attributes, attrsHtml, attributesFrom_entries (by omega) h (by simp) hdistinct,
    Dict.ofList_entries]

/-! ## Tokens of tags -/

/-- The name under which the reader opens an element, from what stands between `<` and `>`. -/
def readName (content : List Char) : String := nameOf (content.takeWhile fun c => !isTagBlank c)

section

variable {t : String} {cs : List Char} (ht : isElementName t = true) (hcs : AttrText cs)

include ht hcs

theorem scan_tag : scan none (t.toList ++ cs) = some none := by
  rw [scan_append, scan_name (isElementName_chars ht)]
  exact hcs.scan

/-- A start tag does not look like an empty tag. -/
theorem getLast?_tag : (t.toList ++ cs).getLast? ≠ some '/' := by
  intro h
  have hmem := List.getLast?_append ▸ h
  cases hlast : cs.getLast? with
  | some c =>
      rw [hlast, Option.some_or, ← hlast] at hmem
      exact hcs.last hmem
  | none =>
      rw [hlast, Option.none_or] at hmem
      have hslash : isNameChar '/' = true :=
        isElementName_chars ht _ (List.mem_of_getLast? hmem)
      revert hslash
      decide

/-- The name of a tag ends where its attributes begin. -/
theorem takeWhile_tag : ((t.toList ++ cs).takeWhile fun c => !isTagBlank c) = t.toList := by
  have hname : ∀ c ∈ t.toList, (!isTagBlank c) = true := fun c hc => by
    rw [isTagBlank_of_isNameChar (isElementName_chars ht c hc), Bool.not_false]
  have hstop : ∀ c ∈ cs.head?, (!isTagBlank c) = false := fun c hc => by
    rw [hcs.blank c hc, Bool.not_true]
  exact (Text.takeWhile_append_stop hname hstop).1

theorem readName_tag : readName (t.toList ++ cs) = t := by
  rw [readName, takeWhile_tag ht hcs, nameOf_toList (isElementName_chars ht)]

/-- A start tag is read with the attributes that are read behind its name. -/
theorem ofTag_tag : Token.ofTag (t.toList ++ cs) = .open t (attributes cs) := by
  simp only [Token.ofTag, getLast?_tag ht hcs, if_false, takeWhile_tag ht hcs, List.drop_left,
    nameOf_toList (isElementName_chars ht)]

end

/-- An end tag is read as it was meant. -/
theorem ofEndTag_name {t : String} (ht : isElementName t = true) :
    Token.ofEndTag t.toList = .close t := by
  have hchars := isElementName_chars ht
  have htrim : Text.trimEnd isTagBlank t.toList = t.toList := by
    unfold Text.trimEnd
    rw [List.reverse_eq_iff]
    cases h : t.toList.reverse with
    | nil => rfl
    | cons c cs =>
        have hc : c ∈ t.toList := List.mem_reverse.1 (h ▸ List.mem_cons_self ..)
        simp [isTagBlank_of_isNameChar (hchars c hc)]
  simp [Token.ofEndTag, htrim, nameOf_toList hchars]

end Markup

end PagePress
