import PagePress.Proofs.Markup.RoundTrip

/-!
# References — in attributes and in text

A reference is resolved by itself in text, and there an unknown one stands for itself.  In an
attribute fewer references are known, and the value stays as it was written if one of them is not.

* `Reference.text_of_attrText?`: what is known in attributes is known in text, and stands for the
  same;
* `Piece` is a reference or a character that starts none, `writtenAll` and `textAll` are what pieces
  are written as and what they stand for in text;
* `attrValue_written`: the value of an attribute of pieces;
* `title_eq_text_iff`: where an attribute has the text of its element for its value.
-/

namespace PagePress

namespace Markup

open View (Node isElementName isAttributeName endTagHtml rawPrefix)

/-! ## References -/

namespace Reference

/-- A number has digits only, and no sign or letter in front of them. -/
theorem digits?_cons {c : Char} (hc : Json.hexValue? c = none) (hex : Bool) (cs : List Char) :
    digits? hex (c :: cs) = none := by
  rw [digits?, if_neg (by simp)]
  -- What is no digit leaves no number, and no later digit brings one back.
  simp only [List.foldl_cons, hc, Option.bind_eq_bind, Option.bind_some, Option.bind_none]
  rw [List.foldl_fixed' fun _ => rfl]
  rfl

/-- In text a sign may come first, which no number of an attribute has. -/
theorem signedDigits?_of_digits? {hex : Bool} {cs : List Char} {n : Nat}
    (h : digits? hex cs = some n) : signedDigits? hex cs = some n := by
  unfold signedDigits?
  split
  · rw [digits?_cons (by decide)] at h
    cases h
  · exact h

theorem numeric?_of_attrNumeric? {cs : List Char} {c : Char} (h : attrNumeric? cs = some c) :
    numeric? cs = some c := by
  have hdigits : ∀ {hex : Bool} {ds : List Char},
      ((digits? hex ds).filter (· ≠ 0)).bind char? = some c →
        (digits? hex ds).isSome = true ∧ (signedDigits? hex ds).bind char? = some c := by
    intro hex ds h
    obtain ⟨n, hn, hc⟩ := Option.bind_eq_some_iff.1 h
    have hds := (Option.filter_eq_some_iff.1 hn).1
    rw [signedDigits?_of_digits? hds]
    exact ⟨by rw [hds]; rfl, hc⟩
  unfold attrNumeric? at h
  split at h
  · exact (hdigits h).2
  · rename_i hx
    obtain ⟨hsome, hc⟩ := hdigits h
    -- A capital `X` is known in text only, but it is no digit.
    have hX : ∀ ds, cs ≠ 'X' :: ds := by
      rintro ds rfl
      rw [digits?_cons (by decide)] at hsome
      cases hsome
    rw [numeric?]
    · exact hc
    · exact hx
    · exact hX

theorem named?_of_basic? {name x : String} (h : basic? name = some x) : named? name = some x := by
  unfold basic? at h
  split at h
  all_goals first | exact h | cases h

/-- What is known in attributes is known in text, and stands for the same there. -/
theorem text_of_attrText? {body out : List Char} (h : attrText? body = some out) :
    (text body).toList = out := by
  unfold attrText? at h
  split at h
  · obtain ⟨c, hc, rfl⟩ := Option.map_eq_some_iff.1 h
    rw [text, numeric?_of_attrNumeric? hc]
    simp
  · rename_i hnumber
    obtain ⟨x, hx, rfl⟩ := Option.map_eq_some_iff.1 h
    rw [text, named?_of_basic? hx]
    · rfl
    · exact hnumber

theorem length_of_named? {name x : String} (h : named? name = some x) : x.toList.length = 1 := by
  unfold named? basic? at h
  repeat' split at h
  all_goals cases h <;> rfl

/-- In text a reference stands for a character, or for itself. -/
theorem length_text_le (body : List Char) : (text body).toList.length ≤ body.length + 2 := by
  unfold text
  split
  · rename_i number
    cases numeric? number <;> simp
  · cases hname : named? (String.ofList body) with
    | none => simp
    | some x =>
        have hlength := length_of_named? hname
        simp only [Option.getD_some]
        omega

end Reference

/-! ## Pieces of a text -/

/-- A character between the signs that delimit a reference: a letter, a digit or a number sign. -/
def isBodyChar (c : Char) : Bool := Text.isAlnum c || c = '#'

theorem not_mem_of_isBodyChar {body : List Char} (h : body.all isBodyChar = true) {d : Char}
    (hd : isBodyChar d = false) : d ∉ body := by
  intro hmem
  rw [List.all_eq_true.1 h d hmem] at hd
  cases hd

/-- A character that starts neither markup nor a reference and ends no quoted value, or a reference
to a name or a number. -/
inductive Piece where
  | char (c : Char) (plain : c ≠ '<' ∧ c ≠ '&' ∧ c ≠ '"')
  | reference (body : List Char) (ne_nil : body ≠ []) (chars : body.all isBodyChar = true)

namespace Piece

/-- The characters of a piece. -/
def written : Piece → List Char
  | char c _ => [c]
  | reference body _ _ => '&' :: (body ++ [';'])

/-- What a piece stands for in text. -/
def text : Piece → List Char
  | char c _ => [c]
  | reference body _ _ => (Reference.text body).toList

/-- What a piece stands for in an attribute, if it is known there. -/
def attr? : Piece → Option (List Char)
  | char c _ => some [c]
  | reference body _ _ => Reference.attrText? body

theorem text_of_attr? {p : Piece} {out : List Char} (h : p.attr? = some out) : p.text = out := by
  cases p with
  | char c plain => exact Option.some.inj h
  | reference body _ _ => exact Reference.text_of_attrText? h

theorem length_text_le (p : Piece) : p.text.length ≤ p.written.length := by
  cases p with
  | char c plain => exact le_rfl
  | reference body _ _ =>
      rw [text, written, List.length_cons, List.length_append, List.length_singleton]
      exact Reference.length_text_le body

/-- A piece starts no markup and ends no quoted value. -/
theorem not_mem_written {p : Piece} {d : Char} (hd : d = '<' ∨ d = '"') : d ∉ p.written := by
  cases p with
  | char c plain =>
      rw [written, List.mem_singleton]
      rintro rfl
      rcases hd with hlt | hquote
      · exact plain.1 hlt
      · exact plain.2.2 hquote
  | reference body _ chars =>
      have hbody : d ∉ body := by
        refine not_mem_of_isBodyChar chars ?_
        rcases hd with rfl | rfl
        all_goals decide
      rcases hd with rfl | rfl
      all_goals simp [written, hbody]

theorem reads_written (p : Piece) : Reads p.written [.text (String.ofList p.text)] := by
  cases p with
  | char c plain => exact reads_char plain.1 plain.2.1
  | reference body _ chars =>
      rw [text, String.ofList_toList]
      refine reads_referenceText body (List.all_eq_true.2 fun c hc => ?_)
      have hne : ∀ d, isBodyChar d = false → c ≠ d := fun d hd heq =>
        not_mem_of_isBodyChar chars hd (heq ▸ hc)
      simp [hne ';' (by decide), hne '&' (by decide), hne '<' (by decide)]

/-- The references of an attribute value are resolved one after the other. -/
theorem unescapeFrom?_written (p : Piece) (rest : List Char) :
    Reference.unescapeFrom? none (p.written ++ rest) =
      p.attr?.bind fun out => (Reference.unescapeFrom? none rest).map (out ++ ·) := by
  cases p with
  | char c plain => simp [written, attr?, Reference.unescapeFrom?, plain.2.1]
  | reference body _ chars =>
      have hsign := fun d hd => not_mem_of_isBodyChar chars (d := d) hd
      rw [written, List.cons_append, List.append_assoc, List.singleton_append,
        Reference.unescapeFrom?]
      exact unescapeFrom?_name rest [] (hsign '&' (by decide)) (hsign ';' (by decide))

end Piece

/-! ## Texts in pieces -/

/-- What pieces are written as. -/
def writtenAll (ps : List Piece) : String := String.ofList (ps.flatMap Piece.written)

/-- What pieces stand for in text. -/
def textAll (ps : List Piece) : String := String.ofList (ps.flatMap Piece.text)

variable {ps : List Piece}

theorem not_mem_written (ps : List Piece) {d : Char} (hd : d = '<' ∨ d = '"') :
    d ∉ ps.flatMap Piece.written := by
  intro hmem
  obtain ⟨p, -, hp⟩ := List.mem_flatMap.1 hmem
  exact Piece.not_mem_written hd hp

theorem reads_writtenAll (ps : List Piece) :
    Reads (ps.flatMap Piece.written) ((ps.map fun p => String.ofList p.text).map Token.text) := by
  induction ps with
  | nil => exact Reads.nil
  | cons p ps ih => exact p.reads_written.append ih

theorem join_text (ps : List Piece) :
    String.join (ps.map fun p => String.ofList p.text) = textAll ps := by
  rw [textAll, ← String.toList_inj, String.toList_join, List.flatMap_map]
  simp

/-- An attribute value is resolved if each of its references is known in attributes. -/
theorem unescape?_written (ps : List Piece) :
    Reference.unescape? (ps.flatMap Piece.written) =
      if ∀ p ∈ ps, p.attr?.isSome = true then some (ps.flatMap Piece.text) else none := by
  unfold Reference.unescape?
  induction ps with
  | nil => rfl
  | cons p ps ih =>
      rw [List.flatMap_cons, p.unescapeFrom?_written, ih]
      cases hp : p.attr? with
      | none =>
          -- One reference that is not known spoils the whole value.
          simp [hp]
      | some out =>
          have htext := Piece.text_of_attr? hp
          simp only [List.forall_mem_cons, hp, Option.isSome_some, true_and, List.flatMap_cons,
            htext, Option.bind_some]
          split <;> rfl

/-- Otherwise it stays as it was written. -/
theorem attrValue_written (ps : List Piece) :
    attrValue (ps.flatMap Piece.written) =
      if ∀ p ∈ ps, p.attr?.isSome = true then textAll ps else writtenAll ps := by
  rw [attrValue, unescape?_written]
  split <;> rfl

theorem length_text_le (ps : List Piece) :
    (ps.flatMap Piece.text).length ≤ (ps.flatMap Piece.written).length := by
  induction ps with
  | nil => exact le_rfl
  | cons p ps ih =>
      have hp := p.length_text_le
      rw [List.flatMap_cons, List.flatMap_cons, List.length_append, List.length_append]
      omega

/-- Pieces stand for what they are written as exactly if each of them does. -/
theorem textAll_eq_writtenAll_iff :
    textAll ps = writtenAll ps ↔ ∀ p ∈ ps, p.text = p.written := by
  rw [textAll, writtenAll, String.ofList_inj]
  induction ps with
  | nil => simp
  | cons p ps ih =>
      rw [List.forall_mem_cons, ← ih, List.flatMap_cons, List.flatMap_cons]
      constructor
      · intro h
        -- No piece stands for more characters than it has.
        have hlength := congrArg List.length h
        rw [List.length_append, List.length_append] at hlength
        have hp := p.length_text_le
        have hps := length_text_le ps
        exact List.append_inj h (by omega)
      · rintro ⟨hp, hps⟩
        rw [hp, hps]

/-! ## Attributes and text -/

theorem attributes_quotedHtml {k : String} {raw : List Char} (hk : isAttributeName k = true)
    (hraw : '"' ∉ raw) : attributes (quotedHtml k raw) = .ofList [(k, attrValue raw)] := by
  have hend : ∀ fuel seen, attributesFrom fuel seen [] = [] := by
    intro fuel seen
    cases fuel <;> rfl
  have hread : attributesFrom ((quotedHtml k raw).length + 1) [] (quotedHtml k raw ++ []) =
      (k, attrValue raw) :: attributesFrom (quotedHtml k raw).length [k.toList] [] :=
    attributesFrom_quotedHtml hk List.not_mem_nil hraw []
  rw [List.append_nil, hend] at hread
  rw [attributes, hread]

/-- An element with the same pieces in an attribute and in its text, as it is written. -/
def twice (t k : String) (ps : List Piece) : List Char :=
  '<' :: (t.toList ++ quotedHtml k (ps.flatMap Piece.written) ++ ['>'] ++
    (ps.flatMap Piece.written ++ endTagHtml t))

/-- The element that is read: its attribute may differ from its text. -/
def twiceRead (t k : String) (ps : List Piece) : Node :=
  .element t (.ofList [(k, attrValue (ps.flatMap Piece.written))])
    (if textAll ps = "" then [] else [.text (textAll ps)])

theorem ofTokens_texts {t : String} (hvoid : View.isVoid t = false) (as : Dict String)
    (ss : List String) :
    Forest.ofTokens (.open t as :: (ss.map Token.text ++ [.close t])) =
      [.element t as (if String.join ss = "" then [] else [.text (String.join ss)])] := by
  have hopen : Forest.start.step (.open t as) = ⟨[⟨t, as, []⟩], []⟩ := by
    simp [Forest.step, hvoid, Forest.start]
  have htexts : Forest.pushText ⟨[⟨t, as, []⟩], []⟩ (String.join ss) =
      ⟨[⟨t, as, []⟩], if String.join ss = "" then [] else [.text (String.join ss)]⟩ := by
    by_cases hempty : String.join ss = "" <;> simp [Forest.pushText, hempty]
  rw [Forest.ofTokens, List.foldl_cons, hopen, List.foldl_append, Forest.foldl_step_texts, htexts,
    List.foldl_cons, Forest.step_close]
  split <;> rfl

section

variable {t k : String} (ht : isElementName t = true) (hk : isAttributeName k = true)

include ht hk

/-- Escaping leaves the element alone. -/
theorem escapeStray_twice (hplain : rawPrefix t ∉ rawTextNames) (ps : List Piece) :
    escapeStray (twice t k ps) = twice t k ps := by
  have htag := attrText_quotedHtml hk (not_mem_written ps (.inr rfl))
  have hend : escapeFrom .text (endTagHtml t ++ []) = endTagHtml t ++ escapeFrom .text [] :=
    escapeFrom_endTagHtml ht
  rw [List.append_nil] at hend
  rw [escapeStray, twice, escapeFrom_startTag ht htag, find?_rawTextNames, if_neg hplain,
    escapeFrom_markup_none, escapeFrom_text (not_mem_written ps (.inl rfl)), hend, escapeFrom,
    List.append_nil]

theorem reads_twice (ps : List Piece) :
    Reads (twice t k ps)
      (.open t (.ofList [(k, attrValue (ps.flatMap Piece.written))]) ::
        ((ps.map fun p => String.ofList p.text).map Token.text ++ [.close t])) := by
  have hquote : '"' ∉ ps.flatMap Piece.written := not_mem_written ps (.inr rfl)
  have hstart := reads_startTag ht (attrText_quotedHtml hk hquote)
  rw [attributes_quotedHtml hk hquote] at hstart
  exact hstart.append ((reads_writtenAll ps).append (reads_endTagHtml ht))

theorem parseChars?_twice (hplain : rawPrefix t ∉ rawTextNames) (hvoid : View.isVoid t = false)
    (ps : List Piece) : parseChars? (twice t k ps) = some [twiceRead t k ps] := by
  have hmark : '<' ≠ byteOrderMark := by decide
  have hread := reads_twice ht hk ps []
  rw [List.append_nil, Token.readFrom?, Option.map_some, List.append_nil] at hread
  rw [parseChars?, ofChars?_escapeStray (by simpa [twice] using hmark),
    escapeStray_twice ht hk hplain, hread, Option.map_some, ofTokens_texts hvoid, join_text,
    twiceRead]

end

/-- Of an `a` with the same pieces in its title and in its text, the title is the text exactly if
all references are known in attributes, or none of them is known in text. -/
theorem title_eq_text_iff (ps : List Piece) :
    ∃ e, parse? ("<a title=\"" ++ writtenAll ps ++ "\">" ++ writtenAll ps ++ "</a>") = some [e] ∧
      e.textContent = textAll ps ∧
      e.attr? "title" =
        some (if ∀ p ∈ ps, p.attr?.isSome = true then textAll ps else writtenAll ps) ∧
      (e.attr? "title" = some e.textContent ↔
        (∀ p ∈ ps, p.attr?.isSome = true) ∨ ∀ p ∈ ps, p.text = p.written) := by
  have hchars : ("<a title=\"" ++ writtenAll ps ++ "\">" ++ writtenAll ps ++ "</a>").toList =
      twice "a" "title" ps := by
    simp [writtenAll, twice, quotedHtml, endTagHtml]
  have hread := parseChars?_twice (t := "a") (k := "title") (by decide) (by decide) (by decide)
    (by decide) ps
  have htext : (twiceRead "a" "title" ps).textContent = textAll ps := by
    rw [twiceRead, Node.textContent]
    split
    · rename_i hempty
      exact hempty.symm
    · simp [Node.textContentAll, Node.textContent]
  have hattr : (twiceRead "a" "title" ps).attr? "title" =
      some (if ∀ p ∈ ps, p.attr?.isSome = true then textAll ps else writtenAll ps) := by
    rw [← attrValue_written]
    rfl
  refine ⟨twiceRead "a" "title" ps, ?_, htext, hattr, ?_⟩
  · rw [parse?, hchars, hread]
  · rw [hattr, htext, Option.some_inj, ← textAll_eq_writtenAll_iff]
    split
    · rename_i hknown
      exact iff_of_true rfl (.inl hknown)
    · rename_i hknown
      rw [eq_comm, or_iff_right hknown]

/-- A space that does not break is known in text only. -/
theorem nbsp_title_ne_text :
    writtenAll [.reference "nbsp".toList (by decide) (by decide)] = "&nbsp;" ∧
      parse? ("<a title=\"" ++ "&nbsp;" ++ "\">" ++ "&nbsp;" ++ "</a>") =
        some [.element "a" (.ofList [("title", "&nbsp;")]) [.text "\u00a0"]] ∧
      (Node.element "a" (.ofList [("title", "&nbsp;")]) [.text "\u00a0"]).attr? "title" ≠
        some (Node.element "a" (.ofList [("title", "&nbsp;")]) [.text "\u00a0"]).textContent := by
  exact ⟨by decide, by decide +kernel, by decide⟩

/-- Basic names and numbers are known in both; next to an unknown name they stay in the title. -/
example :
    parse? "<a title=\"&lt;&#233;&#x41;\">&lt;&#233;&#x41;</a>" =
        some [.element "a" (.ofList [("title", "<éA")]) [.text "<éA"]] ∧
      parse? "<a title=\"&lt;&no;\">&lt;&no;</a>" =
        some [.element "a" (.ofList [("title", "&lt;&no;")]) [.text "<&no;"]] := by
  exact ⟨by decide +kernel, by decide +kernel⟩

end Markup

end PagePress
