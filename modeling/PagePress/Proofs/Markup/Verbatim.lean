import Mathlib.Data.List.DropRight
import PagePress.Proofs.Markup.Acceptance
import PagePress.Proofs.Markup.RoundTrip

/-!
# Verbatim — what escaping leaves alone, and sections of character data

Escaping takes a section of character data for a declaration, which ends at its first `>`, and goes
on in it as in ordinary text; the reader takes everything up to `]]>`.

* `Escaped` relates a text to one with references in place of some of its `<` and `&`, which neither
  makes nor hides other signs; escaping gives such a text from every place on;
* `escapeFrom_eq_self_iff`: a text is left alone if each character is, at its place;
* `sectionText` is what the reader gets of a section;
* `parse?_characterData`: a section is read as this text, which is what stands in the section exactly
  if escaping leaves alone what stands behind the first `>`.
-/

namespace PagePress

namespace Markup

open View (Node)

/-! ## Texts with references -/

/-- One text is another with references in place of some of its `<` and `&`. -/
inductive Escaped : List Char → List Char → Prop where
  | nil : Escaped [] []
  | keep {cs ds : List Char} (c : Char) : Escaped cs ds → Escaped (c :: cs) (c :: ds)
  | reference {c : Char} {r cs ds : List Char} :
      c = '<' ∨ c = '&' → r = "&lt;".toList ∨ r = "&amp;".toList → Escaped cs ds →
        Escaped (c :: cs) (r ++ ds)

namespace Escaped

variable {xs ys zs word : List Char}

theorem length_le (h : Escaped xs ys) : xs.length ≤ ys.length := by
  induction h with
  | nil => exact le_rfl
  | keep c _ ih => exact Nat.succ_le_succ ih
  | reference _ hr _ ih =>
      have hpos : 0 < "&lt;".toList.length ∧ 0 < "&amp;".toList.length := by decide
      rcases hr with rfl | rfl
      all_goals
        rw [List.length_cons, List.length_append]
        omega

theorem eq_of_plain (h : Escaped xs ys) (hplain : ∀ c ∈ xs, c ≠ '<' ∧ c ≠ '&') : ys = xs := by
  induction h with
  | nil => rfl
  | keep c _ ih => rw [ih fun d hd => hplain d (List.mem_cons_of_mem _ hd)]
  | @reference c _ _ _ hc _ _ _ =>
      obtain ⟨hlt, hamp⟩ := hplain c (List.mem_cons_self ..)
      exact absurd hc (by simp [hlt, hamp])

/-- Characters that start neither markup nor references stay at the end. -/
theorem exists_of_append (hplain : ∀ c ∈ ys, c ≠ '<' ∧ c ≠ '&') :
    ∀ {xs zs : List Char}, Escaped (xs ++ ys) zs → ∃ us, zs = us ++ ys ∧ Escaped xs us := by
  intro xs
  induction xs with
  | nil => exact fun h => ⟨[], h.eq_of_plain hplain, .nil⟩
  | cons x xs ih =>
      intro zs h
      cases h with
      | keep c hrest =>
          obtain ⟨us, rfl, hus⟩ := ih hrest
          exact ⟨x :: us, rfl, .keep x hus⟩
      | @reference c r _ ds hc hr hrest =>
          obtain ⟨us, rfl, hus⟩ := ih hrest
          exact ⟨r ++ us, (List.append_assoc ..).symm, .reference hc hr hus⟩

/-- No word begins with other characters than before. -/
theorem prefix_of (h : Escaped xs ys) (hword : ∀ c ∈ word, c ≠ '<' ∧ c ≠ '&') (hy : word <+: ys) :
    word <+: xs := by
  induction word generalizing xs ys with
  | nil => exact List.nil_prefix
  | cons w word ih =>
      rw [List.forall_mem_cons] at hword
      cases h with
      | nil => exact hy
      | keep c hrest =>
          rw [List.cons_prefix_cons] at hy ⊢
          exact ⟨hy.1, ih hrest hword.2 hy.2⟩
      | reference _ hr _ =>
          -- A reference starts with an ampersand.
          rcases hr with rfl | rfl
          all_goals exact absurd (List.cons_prefix_cons.1 hy).1 hword.1.2

/-- A word that starts with no character of a reference lies nowhere but where it was. -/
theorem infix_of {w : Char} (h : Escaped xs ys) (hword : ∀ c ∈ w :: word, c ≠ '<' ∧ c ≠ '&')
    (hw : w ∉ "&lt;amp".toList) (hy : w :: word <:+: ys) : w :: word <:+: xs := by
  induction h with
  | nil => exact hy
  | keep c hrest ih =>
      rcases List.infix_cons_iff.1 hy with hprefix | hinfix
      · exact ((Escaped.keep c hrest).prefix_of hword hprefix).isInfix
      · exact List.infix_cons (ih hinfix)
  | @reference c r cs ds _ hr _ ih =>
      have hsubset : r ⊆ "&lt;amp".toList := by
        rcases hr with rfl | rfl
        all_goals decide
      exact List.infix_cons (ih (Text.infix_of_append (fun hmem => hw (hsubset hmem)) hy))

end Escaped

/-! ## Escaping character by character -/

theorem Place.escapeChar_cases (p : Place) (c : Char) (rest : List Char) :
    p.escapeChar c rest = [c] ∨
      (c = '<' ∨ c = '&') ∧
        (p.escapeChar c rest = "&lt;".toList ∨ p.escapeChar c rest = "&amp;".toList) := by
  unfold Place.escapeChar
  split
  · exact .inl rfl
  · unfold escapeRawChar
    split
    · rename_i hlt
      exact .inr ⟨.inl hlt, .inl rfl⟩
    · split
      · rename_i hamp
        exact .inr ⟨.inr (by simp at hamp; exact hamp.1), .inr rfl⟩
      · exact .inl rfl
  · split
    · rename_i hlt
      exact .inr ⟨.inl hlt.1, .inl rfl⟩
    · exact .inl rfl

theorem escaped_escapeFrom : ∀ (p : Place) (cs : List Char), Escaped cs (escapeFrom p cs) := by
  intro p cs
  induction cs generalizing p with
  | nil => exact .nil
  | cons c cs ih =>
      rw [escapeFrom_cons]
      rcases p.escapeChar_cases c cs with hkeep | ⟨hc, hr⟩
      · rw [hkeep]
        exact .keep c (ih _)
      · exact .reference hc hr (ih _)

/-- Each character is left alone at its place. -/
def Spared (p : Place) (cs : List Char) : Prop :=
  ∀ before c rest, cs = before ++ c :: rest →
    (p.after before (c :: rest)).escapeChar c rest = [c]

theorem spared_cons {p : Place} {c : Char} {rest : List Char} :
    Spared p (c :: rest) ↔ p.escapeChar c rest = [c] ∧ Spared (p.next c rest) rest := by
  constructor
  · intro h
    refine ⟨h [] c rest rfl, fun before d more hrest => ?_⟩
    subst hrest
    exact h (c :: before) d more rfl
  · rintro ⟨hc, hrest⟩ before d more heq
    cases before with
    | nil =>
        obtain ⟨rfl, rfl⟩ := List.cons.inj heq
        exact hc
    | cons b before =>
        obtain ⟨rfl, rfl⟩ := List.cons.inj heq
        exact hrest before d more rfl

/-- Escaping leaves a text alone exactly if it leaves each of its characters alone. -/
theorem escapeFrom_eq_self_iff {p : Place} {cs : List Char} :
    escapeFrom p cs = cs ↔ Spared p cs := by
  induction cs generalizing p with
  | nil => simp [escapeFrom, Spared]
  | cons c cs ih =>
      rw [spared_cons, ← ih, escapeFrom_cons]
      constructor
      · intro h
        have hkeep : p.escapeChar c cs = [c] := by
          rcases p.escapeChar_cases c cs with hkeep | ⟨-, hr⟩
          · exact hkeep
          · -- A reference would make the text longer.
            have hle := (escaped_escapeFrom (p.next c cs) cs).length_le
            have hlength := congrArg List.length h
            rw [List.length_append, List.length_cons] at hlength
            have hlong : 1 < (p.escapeChar c cs).length := by
              rcases hr with hr | hr
              all_goals
                rw [hr]
                decide
            omega
        rw [hkeep] at h
        exact ⟨hkeep, (List.cons.inj h).2⟩
      · rintro ⟨hkeep, hrest⟩
        rw [hkeep, hrest]
        rfl

/-! ## Sections of character data -/

/-- The end of a section of character data. -/
def sectionEnd : List Char := [']', ']', '>']

theorem plain_sectionEnd : ∀ c ∈ sectionEnd, c ≠ '<' ∧ c ≠ '&' := by
  simp [sectionEnd]

/-- What the reader gets of a section, from what stands between its start and its end: escaping goes
on behind the first `>`. -/
def sectionText : List Char → List Char
  | [] => []
  | c :: cs =>
    c :: if c = '>' then (escapeStray (cs ++ sectionEnd)).rdrop sectionEnd.length
      else sectionText cs

theorem exists_escapeStray_sectionEnd (cs : List Char) :
    ∃ ds, escapeStray (cs ++ sectionEnd) = ds ++ sectionEnd ∧ Escaped cs ds :=
  (escaped_escapeFrom .text (cs ++ sectionEnd)).exists_of_append plain_sectionEnd

theorem rdrop_escapeStray (cs : List Char) :
    (escapeStray (cs ++ sectionEnd)).rdrop sectionEnd.length ++ sectionEnd =
      escapeStray (cs ++ sectionEnd) := by
  obtain ⟨ds, hds, -⟩ := exists_escapeStray_sectionEnd cs
  rw [hds, List.rdrop_append_length]

theorem escaped_sectionText (cs : List Char) : Escaped cs (sectionText cs) := by
  induction cs with
  | nil => exact .nil
  | cons c cs ih =>
      rw [sectionText]
      split
      · obtain ⟨ds, hds, hescaped⟩ := exists_escapeStray_sectionEnd cs
        rw [hds, List.rdrop_append_length]
        exact .keep c hescaped
      · exact .keep c ih

/-- What escaping makes of a section and its end, taken apart at the first `>` of both. -/
theorem sectionText_append {cs behind : List Char} :
    ∀ {before : List Char}, cs ++ sectionEnd = before ++ '>' :: behind → '>' ∉ before →
      sectionText cs ++ sectionEnd = before ++ '>' :: escapeStray behind := by
  induction cs with
  | nil =>
      intro before h hbefore
      -- The first `>` is that of the end.
      have hsplit : [']', ']'] ++ '>' :: [] = before ++ '>' :: behind := h
      obtain ⟨rfl, -, rfl⟩ := (List.append_cons_inj_of_notMem (by decide) (by decide)).1 hsplit
      rfl
  | cons c cs ih =>
      intro before h hbefore
      cases before with
      | nil =>
          obtain ⟨rfl, rfl⟩ := List.cons.inj h
          rw [sectionText, if_pos rfl, List.cons_append, rdrop_escapeStray]
          rfl
      | cons b before =>
          obtain ⟨rfl, hrest⟩ := List.cons.inj h
          rw [List.mem_cons, not_or] at hbefore
          rw [sectionText, if_neg (Ne.symm hbefore.1), List.cons_append, ih hrest hbefore.2]
          rfl

/-- The start of a section, without its `<`. -/
def sectionStart : List Char := "![CDATA[".toList

theorem markupAt?_bracket (cs : List Char) :
    markupAt? ('!' :: '[' :: cs) = (Text.find? sectionEnd cs).bind fun n =>
      (Text.dropWord? "CDATA[".toList (cs.take n)).bind fun body =>
        some (some (.text (String.ofList body)), n + 5) := by
  rw [markupAt?]
  rfl

/-- A section is read up to its first end. -/
theorem markupAt?_section {cs : List Char} (h : ¬ sectionEnd <:+: cs) :
    markupAt? (sectionStart ++ (cs ++ sectionEnd)) =
      some (some (.text (String.ofList cs)), (sectionStart ++ (cs ++ sectionEnd)).length) := by
  have hbody : sectionStart ++ (cs ++ sectionEnd) =
      '!' :: '[' :: ("CDATA[".toList ++ cs ++ sectionEnd) := by
    rw [List.append_assoc]
    rfl
  -- The end lies neither across the start nor across itself.
  have hnot : ¬ sectionEnd <:+: "CDATA[".toList ++ cs ++ sectionEnd.dropLast := by
    intro hinfix
    have hfront : [']', ']'] ++ ['>'] <:+: "CDATA[".toList ++ cs :=
      Text.infix_of_append_concat (by decide) hinfix
    exact h (Text.infix_of_append (by decide) hfront)
  have hword : Text.dropWord? "CDATA[".toList ("CDATA[".toList ++ cs) = some cs := by
    rw [Text.dropWord?, if_pos (List.isPrefixOf_iff_prefix.2 (List.prefix_append _ _)),
      List.drop_left]
  have hlength : ("CDATA[".toList ++ cs ++ sectionEnd).length =
      ("CDATA[".toList ++ cs).length + 3 := List.length_append
  rw [hbody, markupAt?_bracket, Text.find?_append_self (by decide) hnot, Option.bind_some,
    List.take_left, hword, Option.bind_some, List.length_cons, List.length_cons, hlength]

theorem throughClose?_append {xs : List Char} (h : '>' ∉ xs) (ys : List Char) :
    throughClose? (xs ++ ['>'] ++ ys) = some (xs ++ ['>']).length := by
  have hnot : ¬ ['>'] <:+: xs ++ ['>'].dropLast := by
    intro hinfix
    exact h (by simpa using hinfix.subset (List.mem_singleton_self '>'))
  rw [throughClose?, Text.find?_more ys (Text.find?_append_self (List.cons_ne_nil _ _) hnot),
    Option.map_some, List.length_append]
  rfl

/-- What starts with another sign than a letter or a digit opens no raw text. -/
theorem rawTextName?_of_not_isAlnum {c : Char} (hc : Text.isAlnum c = false) (cs : List Char) :
    rawTextName? (c :: cs) = none := by
  rw [rawTextName?, List.takeWhile_cons_of_neg (by simp [hc])]
  split
  · rfl
  · decide

/-- Escaping takes the first `>` for the end of a section. -/
theorem escapeStray_section (cs : List Char) :
    escapeStray ('<' :: (sectionStart ++ (cs ++ sectionEnd))) =
      '<' :: (sectionStart ++ (sectionText cs ++ sectionEnd)) := by
  obtain ⟨before, behind, hsplit, hbefore⟩ : ∃ before behind,
      cs ++ sectionEnd = before ++ '>' :: behind ∧ '>' ∉ before :=
    List.eq_append_cons_of_mem (by simp [sectionEnd])
  have hmarkup : sectionStart ++ (cs ++ sectionEnd) =
      sectionStart ++ before ++ ['>'] ++ behind := by
    rw [hsplit, List.append_assoc, List.append_assoc, List.singleton_append]
  have hstart : '>' ∉ sectionStart ++ before := by
    rw [List.mem_append, not_or]
    exact ⟨by decide, hbefore⟩
  have hlength : markupLength? (sectionStart ++ before ++ ['>'] ++ behind) =
      some (sectionStart ++ before ++ ['>']).length := throughClose?_append hstart behind
  have hraw : rawTextName? (sectionStart ++ before ++ ['>']) = none :=
    rawTextName?_of_not_isAlnum (c := '!') (by decide) _
  rw [escapeStray, hmarkup, escapeFrom_tag hlength, hraw, escapeFrom_markup_none,
    sectionText_append hsplit hbefore]
  simp [escapeStray]

/-- A section is read as one text, or as none. -/
theorem parseChars?_section {cs : List Char} (h : ¬ sectionEnd <:+: cs) :
    parseChars? ('<' :: (sectionStart ++ (cs ++ sectionEnd))) =
      some (if cs = [] then [] else [.text (String.ofList (sectionText cs))]) := by
  have hnot : ¬ sectionEnd <:+: sectionText cs :=
    fun hinfix => h ((escaped_sectionText cs).infix_of plain_sectionEnd (by decide) hinfix)
  have hread : Token.readFrom? 0 ('<' :: (sectionStart ++ (sectionText cs ++ sectionEnd))) =
      some [.text (String.ofList (sectionText cs))] := by
    have hskip := readFrom?_length (sectionStart ++ (sectionText cs ++ sectionEnd)) []
    rw [List.append_nil] at hskip
    rw [Token.readFrom?, if_pos rfl, markupAt?_section hnot]
    simp only [hskip]
    rfl
  have hmark : '<' ≠ byteOrderMark := by decide
  rw [parseChars?, ofChars?_escapeStray (by simpa using hmark), escapeStray_section, hread,
    Option.map_some]
  cases cs with
  | nil => rfl
  | cons c cs =>
      have hne : (String.ofList (sectionText (c :: cs))).isEmpty = false := by
        simp [sectionText]
      simp [Forest.ofTokens, Forest.step, Forest.pushText, hne, Forest.start, Forest.finish,
        Forest.closeThrough]

/-- The reader gets what stands in a section exactly if escaping leaves alone what stands behind the
first `>`. -/
theorem sectionText_eq_self_iff {cs : List Char} :
    sectionText cs = cs ↔ ∀ before behind, cs = before ++ '>' :: behind → '>' ∉ before →
      Spared .text (behind ++ sectionEnd) := by
  induction cs with
  | nil => simp [sectionText]
  | cons c cs ih =>
      rw [sectionText, List.cons.injEq, and_iff_right rfl]
      split
      · -- The first `>` stands here, and what follows it is escaped.
        rename_i hclose
        subst hclose
        have hself : (escapeStray (cs ++ sectionEnd)).rdrop sectionEnd.length = cs ↔
            escapeStray (cs ++ sectionEnd) = cs ++ sectionEnd := by
          conv => rhs; rw [← rdrop_escapeStray, List.append_left_inj]
        rw [hself, escapeStray, escapeFrom_eq_self_iff]
        constructor
        · rintro hspared before behind hsplit hbefore
          cases before with
          | nil => exact (List.cons.inj hsplit).2 ▸ hspared
          | cons b before =>
              obtain ⟨rfl, -⟩ := List.cons.inj hsplit
              exact absurd (List.mem_cons_self ..) hbefore
        · exact fun h => h [] cs rfl (by simp)
      · -- It stands behind this character, or nowhere.
        rename_i hclose
        rw [ih]
        constructor
        · rintro h before behind hsplit hbefore
          cases before with
          | nil => exact absurd (List.cons.inj hsplit).1 hclose
          | cons b before =>
              exact h before behind (List.cons.inj hsplit).2 fun hmem =>
                hbefore (List.mem_cons_of_mem _ hmem)
        · intro h before behind hsplit hbefore
          exact h (c :: before) behind (by rw [hsplit]; rfl) (by simp [hbefore, Ne.symm hclose])

theorem spared_of_lt_not_mem {cs : List Char} (h : '<' ∉ cs) : Spared .text cs := by
  rw [← escapeFrom_eq_self_iff]
  simpa [escapeFrom] using escapeFrom_text h []

/-- A section of character data is read as one text, or as none if it is empty.  That is the text
that stands in it exactly if escaping leaves alone what stands behind its first `>`, as it does if
no `<` stands there. -/
theorem parse?_characterData {t : String} (h : ¬ sectionEnd <:+: t.toList) :
    parse? ("<![CDATA[" ++ t ++ "]]>") =
        some (if t = "" then [] else [.text (String.ofList (sectionText t.toList))]) ∧
      (sectionText t.toList = t.toList ↔
        ∀ before behind, t.toList = before ++ '>' :: behind → '>' ∉ before →
          Spared .text (behind ++ sectionEnd)) ∧
      ((∀ before behind, t.toList = before ++ '>' :: behind → '<' ∉ behind) →
        parse? ("<![CDATA[" ++ t ++ "]]>") = some (if t = "" then [] else [.text t])) := by
  have hchars : ("<![CDATA[" ++ t ++ "]]>").toList =
      '<' :: (sectionStart ++ (t.toList ++ sectionEnd)) := by
    rw [String.toList_append, String.toList_append, List.append_assoc]
    rfl
  have hempty : t.toList = [] ↔ t = "" := by simp
  have hread : parse? ("<![CDATA[" ++ t ++ "]]>") =
      some (if t = "" then [] else [.text (String.ofList (sectionText t.toList))]) := by
    rw [parse?, hchars, parseChars?_section h]
    simp only [hempty]
  refine ⟨hread, sectionText_eq_self_iff, fun hbehind => ?_⟩
  have hself : sectionText t.toList = t.toList := by
    rw [sectionText_eq_self_iff]
    intro before behind hsplit _
    refine spared_of_lt_not_mem ?_
    rw [List.mem_append, not_or]
    exact ⟨hbehind before behind hsplit, by decide⟩
  rw [hread, hself, String.ofList_toList]

/-- A `<` in front of the first `>` is safe, and so are tags behind it. -/
theorem parse?_characterData_tags :
    ¬ sectionEnd <:+: "a < b > & <i>x</i>]".toList ∧
      parse? ("<![CDATA[" ++ "a < b > & <i>x</i>]" ++ "]]>") =
        some [.text "a < b > & <i>x</i>]"] ∧
      Spared .text (" & <i>x</i>]".toList ++ sectionEnd) := by
  have hend : ¬ sectionEnd <:+: "a < b > & <i>x</i>]".toList := by decide +kernel
  obtain ⟨hread, hself, -⟩ := parse?_characterData hend
  have htext : sectionText "a < b > & <i>x</i>]".toList = "a < b > & <i>x</i>]".toList := by
    decide +kernel
  have hsplit : "a < b > & <i>x</i>]".toList = "a < b ".toList ++ '>' :: " & <i>x</i>]".toList := by
    decide +kernel
  refine ⟨hend, ?_, hself.1 htext _ _ hsplit (by decide)⟩
  rw [hread, htext]
  rfl

/-- Behind the first `>` a `<` that starts no tag becomes a reference, which the reader takes for
character data. -/
theorem strayInSection_not_verbatim :
    ¬ sectionEnd <:+: ">&<".toList ∧
      parse? ("<![CDATA[" ++ ">&<" ++ "]]>") = some [.text ">&&lt;"] ∧
      parse? ("<![CDATA[" ++ ">&<" ++ "]]>") ≠ some [.text ">&<"] := by
  exact ⟨by decide, by decide +kernel, by decide +kernel⟩

end Markup

end PagePress
