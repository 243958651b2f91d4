import PagePress.Markup.Forest
import PagePress.Proofs.Markup.Complete

/-!
# Tolerance — markup without declarations is always read

Escaping and the reader measure tags apart from each other, each with quotes of its own, and the
reader resolves references in a text that escaping has rewritten.  Without declarations the two of
them come to one reader that never fails.

* `lenientFrom` is this reader: it reads the text as it was written, a tag where one starts and
  anything else as text;
* `readFrom?_escapeFrom_lenient`: what escaping leaves of a text is read as it says;
* `parse?_of_undeclared`: markup text without declarations is read in this way, and every tag that
  escaping keeps is read up to its end.
-/

namespace PagePress

namespace Markup

/-! ## The lenient reader -/

/-- Whether a `<` followed by these characters can start a tag: a letter has to follow, or a slash
and a letter. -/
def startsTag : List Char → Bool
  | '/' :: c :: _ => c.isAlpha
  | c :: _ => c.isAlpha
  | [] => false

/-- The length of the tag that a `<` followed by these characters starts, up to and with its `>`. -/
def tagAt? (cs : List Char) : Option Nat := if startsTag cs then tagLength? none cs else none

/-- The token of a tag, from what follows its `<` up to and with its `>`. -/
def Token.ofMarkup : List Char → Token
  | '/' :: cs => .ofEndTag cs.dropLast
  | cs => .ofTag cs.dropLast

/-- The raw text element that goes on at a place: it ends in front of its end tag. -/
def stillRaw (raw : Option String) (cs : List Char) : Option String :=
  raw.filter fun name => !endsRawText name cs

/-- Reads tokens after passing over the first `skip` characters, in the raw text of an element or
in ordinary text. -/
def lenientFrom (skip : Nat) (raw : Option String) : List Char → List Token
  | [] => []
  | c :: rest =>
    match skip with
    | n + 1 => lenientFrom n raw rest
    | 0 =>
      match stillRaw raw (c :: rest) with
      | none =>
        if c = '<' then
          match tagAt? rest with
          | some n => .ofMarkup (rest.take n) :: lenientFrom n (rawTextName? (rest.take n)) rest
          | none => .text (String.ofList [c]) :: lenientFrom 0 none rest
        else if c = '&' then
          .text (referenceAt rest).1 :: lenientFrom (referenceAt rest).2 none rest
        else .text (String.ofList [c]) :: lenientFrom 0 none rest
      | some name =>
        -- References stay live in a text area only.
        if c = '&' ∧ name = "textarea" then
          .text (referenceAt rest).1 :: lenientFrom (referenceAt rest).2 (some name) rest
        else .text (String.ofList [c]) :: lenientFrom 0 (some name) rest

/-- The tokens of a text, a byte order mark at its start dropped. -/
def lenientTokens : List Char → List Token
  | c :: rest =>
    if c = byteOrderMark then lenientFrom 0 none rest else lenientFrom 0 none (c :: rest)
  | [] => []

theorem lenientFrom_length (raw : Option String) (xs rest : List Char) :
    lenientFrom xs.length raw (xs ++ rest) = lenientFrom 0 raw rest := by
  induction xs with
  | nil => rfl
  | cons c xs ih => exact ih

/-! ## Tags -/

/-- Text without declarations and processing instructions. -/
def Undeclared (cs : List Char) : Prop := ¬ ['<', '!'] <:+: cs ∧ ¬ ['<', '?'] <:+: cs

theorem Undeclared.of_suffix {cs ds : List Char} (h : Undeclared cs) (hds : ds <:+ cs) :
    Undeclared ds :=
  ⟨fun hin => h.1 (hin.trans hds.isInfix), fun hin => h.2 (hin.trans hds.isInfix)⟩

/-- Where no declaration starts, escaping keeps tags only. -/
theorem markupLength?_of_undeclared {rest : List Char} (h : Undeclared ('<' :: rest)) :
    markupLength? rest = tagAt? rest := by
  have hbang : ∀ cs, rest ≠ '!' :: cs := by
    rintro cs rfl
    exact h.1 ⟨[], cs, rfl⟩
  have hquestion : ∀ cs, rest ≠ '?' :: cs := by
    rintro cs rfl
    exact h.2 ⟨[], cs, rfl⟩
  unfold markupLength? tagAt?
  split
  · rfl
  · exact absurd rfl (hbang _)
  · exact absurd rfl (hbang _)
  · exact absurd rfl (hquestion _)
  · rename_i c cs hslash _ _ _
    rw [startsTag]
    rintro d ds rfl rfl
    exact hslash d ds rfl rfl
  · rfl

theorem tagAt?_cases {cs : List Char} {n : Nat} (h : tagAt? cs = some n) :
    tagLength? none cs = some n ∧
      ∃ c ds, c.isAlpha = true ∧ (cs = c :: ds ∨ cs = '/' :: c :: ds) := by
  rw [tagAt?] at h
  split at h
  · rename_i hstarts
    refine ⟨h, ?_⟩
    unfold startsTag at hstarts
    split at hstarts
    · exact ⟨_, _, hstarts, .inr rfl⟩
    · exact ⟨_, _, hstarts, .inl rfl⟩
    · cases hstarts
  · cases h

theorem tagLength?_take_self {q : Option Char} {cs : List Char} {n : Nat}
    (h : tagLength? q cs = some n) : tagLength? q (cs.take n) = some n := by
  obtain ⟨content, rest, rfl, rfl, hscan⟩ := exists_of_tagLength? h
  rw [List.take_length_add_append, tagLength?_append hscan]
  simp [tagLength?, Nat.add_comm]

theorem ofMarkup_startTag {c : Char} {cs : List Char} (hc : c ≠ '/') :
    Token.ofMarkup (c :: cs ++ ['>']) = .ofTag (c :: cs) := by
  rw [List.cons_append, Token.ofMarkup, ← List.cons_append, List.dropLast_concat]
  exact fun _ heq => hc (List.cons.inj heq).1

theorem ofMarkup_endTag (cs : List Char) :
    Token.ofMarkup ('/' :: cs ++ ['>']) = .ofEndTag cs := by
  rw [List.cons_append, Token.ofMarkup, List.dropLast_concat]

/-- A tag is there in full, it is a tag by itself, and it is read up to its end. -/
theorem tag_of_tagAt? {cs : List Char} {n : Nat} (h : tagAt? cs = some n) :
    n ≤ cs.length ∧ tagAt? (cs.take n) = some n ∧
      markupAt? (cs.take n) = some (some (.ofMarkup (cs.take n)), n) := by
  rcases tagAt?_cases h with ⟨hlength, c, ds, hc, hcs⟩
  have hself := tagLength?_take_self hlength
  obtain ⟨content, rest, hsplit, rfl, hscan⟩ := exists_of_tagLength? hlength
  have htake : cs.take (content.length + 1) = content ++ ['>'] := by
    rw [hsplit, List.take_length_add_append]
    rfl
  -- Neither the letter nor the slash is the `>`, so that both are content of the tag.
  have hclose : c ≠ '>' := ne_of_isAlpha hc (by decide)
  have hslash : c ≠ '/' := ne_of_isAlpha hc (by decide)
  rw [htake] at hself ⊢
  refine ⟨by simp [hsplit], ?_⟩
  rcases hcs with rfl | rfl
  · obtain ⟨xs, rfl⟩ := exists_cons_of_append_close hsplit hclose
    refine ⟨?_, ?_⟩
    · rw [List.cons_append] at hself ⊢
      rw [tagAt?, startsTag, if_pos hc, hself]
      exact fun _ _ heq _ => absurd heq hslash
    · rw [ofMarkup_startTag hslash]
      exact markupAt?_startTag hc hscan []
  · -- In an end tag the slash comes first, and then the letter.
    obtain ⟨xs, rfl⟩ := exists_cons_of_append_close hsplit (by decide)
    obtain ⟨ys, rfl⟩ := exists_cons_of_append_close (List.cons.inj hsplit).2 hclose
    refine ⟨?_, ?_⟩
    · rw [List.cons_append, List.cons_append] at hself ⊢
      rw [tagAt?, startsTag, if_pos hc, hself]
    · rw [ofMarkup_endTag]
      exact markupAt?_endTag (by simpa [scan] using hscan) []

/-! ## Escaping at a place -/

/-- Raw text ends in front of a `<` only. -/
theorem endsRawText_of_ne {c : Char} (hc : c ≠ '<') (name : String) (rest : List Char) :
    endsRawText name (c :: rest) = false := by
  have hstarts : Text.startsWithLower ('<' :: '/' :: name.toList) (c :: rest) = false := by
    rw [← Bool.not_eq_true, startsWithLower_iff]
    intro hprefix
    have hlower : '<' = c.toLower := (List.cons_prefix_cons.1 hprefix).1
    exact hc (eq_lt_of_toLower hlower.symm)
  rw [endsRawText, hstarts, Bool.false_and]

theorem stillRaw_of_ne {raw : Option String} {c : Char} {rest : List Char} (hc : c ≠ '<') :
    stillRaw raw (c :: rest) = raw := by
  cases raw with
  | none => rfl
  | some name => simp [stillRaw, endsRawText_of_ne hc]

theorem escapeFrom_of_still_none {raw : Option String} {c : Char} {rest : List Char}
    (h : stillRaw raw (c :: rest) = none) :
    escapeFrom (.markup 0 raw) (c :: rest) = escapeFrom .text (c :: rest) := by
  refine escapeFrom_of_settle ?_
  cases raw with
  | none => rfl
  | some name =>
      have hends : endsRawText name (c :: rest) = true := by simpa [stillRaw] using h
      simp [Place.settle, hends]

theorem escapeFrom_of_still_some {raw : Option String} {name : String} {c : Char}
    {rest : List Char} (h : stillRaw raw (c :: rest) = some name) :
    escapeFrom (.markup 0 raw) (c :: rest) =
      escapeRawChar name c ++ escapeFrom (.markup 0 (some name)) rest := by
  obtain ⟨rfl, hends⟩ : raw = some name ∧ endsRawText name (c :: rest) = false := by
    simpa [stillRaw, Option.filter_eq_some_iff] using h
  rw [escapeFrom_markup_some, escapeFrom_markup_some, escapeFrom_raw_cons hends]

theorem escapeFrom_text_cons (c : Char) (rest : List Char) :
    escapeFrom .text (c :: rest) =
      if c = '<' then
        match markupLength? rest with
        | some n => c :: escapeFrom (.markup n (rawTextName? (rest.take n))) rest
        | none => "&lt;".toList ++ escapeFrom .text rest
      else c :: escapeFrom .text rest := by
  rw [escapeFrom]
  rfl

/-- Characters that start neither markup nor references are kept at every place. -/
theorem escapeFrom_plain {xs : List Char} (h : ∀ c ∈ xs, c ≠ '<' ∧ c ≠ '&') (raw : Option String)
    (rest : List Char) :
    escapeFrom (.markup 0 raw) (xs ++ rest) = xs ++ escapeFrom (.markup 0 raw) rest := by
  induction xs with
  | nil => rfl
  | cons c xs ih =>
      rw [List.forall_mem_cons] at h
      rcases h with ⟨⟨hlt, hamp⟩, hxs⟩
      have hstill : stillRaw raw (c :: (xs ++ rest)) = raw := stillRaw_of_ne hlt
      rw [List.cons_append, List.cons_append]
      cases raw with
      | none =>
          have hlt' : '<' ∉ [c] := by simpa using Ne.symm hlt
          rw [escapeFrom_of_still_none hstill, ← List.singleton_append, escapeFrom_text hlt',
            ← escapeFrom_markup_none, ih hxs, List.singleton_append]
      | some name =>
          have hchar : escapeRawChar name c = [c] := by simp [escapeRawChar, hlt, hamp]
          rw [escapeFrom_of_still_some hstill, hchar, ih hxs, List.singleton_append]

/-! ## References in escaped text -/

/-- Whether a reference goes on with a character. -/
def inReference (c : Char) : Bool := c != ';' && c != '&' && c != '<'

theorem referenceAt_append_of {body tail : List Char} (hbody : ∀ c ∈ body, inReference c = true)
    (htail : ∀ c ∈ tail.head?, inReference c = false) :
    referenceAt (body ++ tail) =
      if tail.head? = some ';' then (Reference.text body, body.length + 1) else ("&", 0) := by
  have htake := (Text.takeWhile_append_stop hbody htail).1
  unfold inReference at htake
  simp only [referenceAt, htake, List.drop_left]
  cases tail with
  | nil => rfl
  | cons c tail =>
      by_cases hc : c = ';'
      · subst hc
        rfl
      · simp [hc]

theorem exists_reference_split (cs : List Char) :
    ∃ body tail, cs = body ++ tail ∧ (∀ c ∈ body, inReference c = true) ∧
      ∀ c ∈ tail.head?, inReference c = false := by
  refine ⟨cs.takeWhile inReference, cs.dropWhile inReference,
    List.takeWhile_append_dropWhile.symm, fun c hc => List.all_eq_true.1 List.all_takeWhile c hc, ?_⟩
  intro c hc
  have hnot := List.head?_dropWhile_not inReference cs
  rw [Option.mem_def.1 hc] at hnot
  simpa using hnot

theorem plain_of_inReference {c : Char} (h : inReference c = true) : c ≠ '<' ∧ c ≠ '&' := by
  simp [inReference] at h
  exact ⟨h.2, h.1.2⟩

/-- What starts markup or a reference goes on to start one of them. -/
theorem head?_escapeFrom (raw : Option String) {c : Char} (hc : c = '<' ∨ c = '&')
    (rest : List Char) :
    ∃ d ds, escapeFrom (.markup 0 raw) (c :: rest) = d :: ds ∧ (d = '<' ∨ d = '&') := by
  cases hstill : stillRaw raw (c :: rest) with
  | none =>
      rw [escapeFrom_of_still_none hstill, escapeFrom_text_cons]
      rcases hc with rfl | rfl
      · rw [if_pos rfl]
        cases markupLength? rest with
        | none => exact ⟨'&', _, rfl, .inr rfl⟩
        | some n => exact ⟨'<', _, rfl, .inl rfl⟩
      · exact ⟨'&', _, if_neg (by decide), .inr rfl⟩
  | some name =>
      obtain ⟨ds, hds⟩ : ∃ ds, escapeRawChar name c = '&' :: ds := by
        rcases hc with rfl | rfl
        · exact ⟨_, rfl⟩
        · by_cases hname : name = "textarea" <;> simp [escapeRawChar, hname]
      rw [escapeFrom_of_still_some hstill, hds]
      exact ⟨'&', _, rfl, .inr rfl⟩

/-- A reference reads the same before and after escaping. -/
theorem referenceAt_escapeFrom (raw : Option String) (cs : List Char) :
    referenceAt (escapeFrom (.markup 0 raw) cs) = referenceAt cs := by
  obtain ⟨body, tail, rfl, hbody, htail⟩ := exists_reference_split cs
  rw [escapeFrom_plain (fun c hc => plain_of_inReference (hbody c hc)),
    referenceAt_append_of hbody htail]
  -- Escaping may rewrite what cuts the reference off, but that cuts it off again.
  cases tail with
  | nil => exact referenceAt_append_of hbody (by simp [escapeFrom])
  | cons c tail =>
      by_cases hsemi : c = ';'
      · have hplain : ∀ d ∈ [c], d ≠ '<' ∧ d ≠ '&' := by simp [hsemi]
        have hkept := escapeFrom_plain hplain raw tail
        rw [List.singleton_append, List.singleton_append] at hkept
        rw [hkept]
        exact referenceAt_append_of hbody htail
      · have hc : c = '<' ∨ c = '&' := by
          have hnot := htail c rfl
          simp [inReference, hsemi] at hnot
          tauto
        obtain ⟨d, ds, hescape, hd⟩ := head?_escapeFrom raw hc tail
        have hnot : inReference d = false := by rcases hd with rfl | rfl <;> rfl
        have hd' : d ≠ ';' := by rcases hd with rfl | rfl <;> decide
        rw [hescape, referenceAt_append_of hbody (by simpa using hnot)]
        simp [hsemi, hd']

/-- What a reference takes up are plain characters of the text. -/
theorem exists_reference_skip (cs : List Char) :
    ∃ xs ys, cs = xs ++ ys ∧ xs.length = (referenceAt cs).2 ∧ ∀ c ∈ xs, c ≠ '<' ∧ c ≠ '&' := by
  obtain ⟨body, tail, rfl, hbody, htail⟩ := exists_reference_split cs
  rw [referenceAt_append_of hbody htail]
  split
  · rename_i hsemi
    obtain ⟨rest, rfl⟩ := List.head?_eq_some_iff.1 hsemi
    refine ⟨body ++ [';'], rest, by simp, by simp, ?_⟩
    rw [List.forall_mem_append]
    exact ⟨fun c hc => plain_of_inReference (hbody c hc), by simp⟩
  · exact ⟨[], body ++ tail, rfl, rfl, by simp⟩

/-! ## Reading what escaping leaves -/

/-- Where a reference may start, it is read from what escaping leaves as it was written. -/
theorem readFrom?_escapeFrom_reference {raw : Option String} {rest : List Char}
    (h : ∀ ys, ys <:+ rest →
      Token.readFrom? 0 (escapeFrom (.markup 0 raw) ys) = some (lenientFrom 0 raw ys)) :
    Token.readFrom? 0 ('&' :: escapeFrom (.markup 0 raw) rest) =
      some (.text (referenceAt rest).1 :: lenientFrom (referenceAt rest).2 raw rest) := by
  obtain ⟨xs, ys, hsplit, hlength, hplain⟩ := exists_reference_skip rest
  have hys := h ys (hsplit ▸ List.suffix_append xs ys)
  have hskip : Token.readFrom? (referenceAt rest).2 (escapeFrom (.markup 0 raw) rest) =
      some (lenientFrom 0 raw ys) := by
    rw [← hlength, hsplit, escapeFrom_plain hplain, readFrom?_length, hys]
  have hlenient : lenientFrom (referenceAt rest).2 raw rest = lenientFrom 0 raw ys := by
    rw [← hlength]
    conv => lhs; rw [hsplit]
    exact lenientFrom_length raw xs ys
  rw [Token.readFrom?, if_neg (by decide), if_pos rfl, referenceAt_escapeFrom, hlenient]
  simp only [hskip, Option.map_some]

/-- A tag is read from what escaping leaves as it was written, and what it opens goes on behind
it. -/
theorem readFrom?_escapeFrom_tag {rest : List Char} {n : Nat} (htag : tagAt? rest = some n)
    (h : ∀ raw ys, ys <:+ rest →
      Token.readFrom? 0 (escapeFrom (.markup 0 raw) ys) = some (lenientFrom 0 raw ys)) :
    Token.readFrom? 0 ('<' :: escapeFrom (.markup n (rawTextName? (rest.take n))) rest) =
      some (.ofMarkup (rest.take n) :: lenientFrom n (rawTextName? (rest.take n)) rest) := by
  rcases tag_of_tagAt? htag with ⟨hle, -, hread⟩
  generalize rawTextName? (rest.take n) = opens
  have hrest := h opens (rest.drop n) (List.drop_suffix n rest)
  have hlength : (rest.take n).length = n := List.length_take_of_le hle
  -- The tag is copied, and so the reader finds it in front of whatever follows.
  have hcopy : escapeFrom (.markup n opens) rest =
      rest.take n ++ escapeFrom (.markup 0 opens) (rest.drop n) := by
    have hmarkup := escapeFrom_markup opens (rest.take n) (rest.drop n)
    rwa [hlength, List.take_append_drop] at hmarkup
  have hlenient : lenientFrom n opens rest = lenientFrom 0 opens (rest.drop n) := by
    have hskip := lenientFrom_length opens (rest.take n) (rest.drop n)
    rwa [hlength, List.take_append_drop] at hskip
  have hskip := readFrom?_length (rest.take n) (escapeFrom (.markup 0 opens) (rest.drop n))
  rw [hlength, hrest] at hskip
  rw [hcopy, hlenient, Token.readFrom?, if_pos rfl, markupAt?_more hread]
  simp only [hskip, Option.map_some, Option.toList_some, List.singleton_append]

/-- Without declarations, what escaping leaves of a text is read as the lenient reader reads the
text, in raw text and outside. -/
theorem readFrom?_escapeFrom_lenient (k : Nat) :
    ∀ {cs : List Char} {raw : Option String}, cs.length ≤ k → Undeclared cs →
      Token.readFrom? 0 (escapeFrom (.markup 0 raw) cs) = some (lenientFrom 0 raw cs) := by
  -- The length bounds the recursion: a tag or a reference is passed over at once.
  induction k with
  | zero =>
      intro cs raw hk _
      obtain rfl : cs = [] := List.length_eq_zero_iff.1 (Nat.le_zero.1 hk)
      rfl
  | succ k ih =>
      intro cs raw hk hcs
      cases cs with
      | nil => rfl
      | cons c rest =>
          have hrest : ∀ raw ys, ys <:+ rest →
              Token.readFrom? 0 (escapeFrom (.markup 0 raw) ys) = some (lenientFrom 0 raw ys) := by
            intro raw ys hys
            have hle : ys.length ≤ k := hys.length_le.trans (Nat.le_of_succ_le_succ hk)
            exact ih hle (hcs.of_suffix (hys.trans (List.suffix_cons c rest)))
          have hself := fun raw => hrest raw rest List.suffix_rfl
          rw [lenientFrom]
          cases hstill : stillRaw raw (c :: rest) with
          | none =>
              have htext : Token.readFrom? 0 (escapeFrom .text rest) =
                  some (lenientFrom 0 none rest) := by
                rw [← escapeFrom_markup_none]
                exact hself none
              rw [escapeFrom_of_still_none hstill, escapeFrom_text_cons]
              dsimp only
              by_cases hlt : c = '<'
              · subst hlt
                -- Here alone it matters that no declaration starts.
                rw [if_pos rfl, if_pos rfl, markupLength?_of_undeclared hcs]
                cases htag : tagAt? rest with
                | some n => exact readFrom?_escapeFrom_tag htag hrest
                | none =>
                    have hread := reads_escapeTextChar '<' (escapeFrom .text rest)
                    rw [htext] at hread
                    exact hread
              · rw [if_neg hlt, if_neg hlt]
                by_cases hamp : c = '&'
                · subst hamp
                  rw [if_pos rfl, ← escapeFrom_markup_none]
                  exact readFrom?_escapeFrom_reference (hrest none)
                · have hread := reads_char hlt hamp (escapeFrom .text rest)
                  rw [htext] at hread
                  rw [if_neg hamp]
                  exact hread
          | some name =>
              rw [escapeFrom_of_still_some hstill]
              dsimp only
              by_cases hamp : c = '&' ∧ name = "textarea"
              · rcases hamp with ⟨rfl, rfl⟩
                rw [if_pos ⟨rfl, rfl⟩]
                exact readFrom?_escapeFrom_reference (hrest (some "textarea"))
              · -- A character of raw text is text, escaped or not.
                have hchar : Reads (escapeRawChar name c) (textTokens [c]) := by
                  by_cases hname : name = "textarea"
                  · by_cases hlt : c = '<'
                    · subst hlt
                      exact reads_escapeTextChar '<'
                    · have hne : c ≠ '&' := fun heq => hamp ⟨heq, hname⟩
                      simpa [escapeRawChar, hlt, hne] using reads_char hlt hne
                  · exact reads_escapeRawChar hname c
                rw [if_neg hamp, hchar, hself]
                rfl

/-- Without declarations, all markup that escaping keeps are tags, read up to their ends whatever
follows. -/
theorem tag_of_mem_kept {cs m : List Char} (h : Undeclared cs) (hm : m ∈ kept cs) :
    tagAt? m = some m.length ∧
      ∀ more, markupAt? (m ++ more) = some (some (.ofMarkup m), m.length) := by
  obtain ⟨before, rest, rfl, hkept⟩ := mem_keptFrom_iff.1 hm
  have hbehind : Undeclared ('<' :: (m ++ rest)) := h.of_suffix (List.suffix_append ..)
  have htag : tagAt? (m ++ rest) = some m.length :=
    (markupLength?_of_undeclared hbehind).symm.trans hkept.length
  obtain ⟨-, hself, hread⟩ := tag_of_tagAt? htag
  rw [List.take_left] at hself hread
  exact ⟨hself, markupAt?_more hread⟩

theorem ofChars?_of_undeclared {cs : List Char} (h : Undeclared cs) :
    Token.ofChars? (escapeStray cs) = some (lenientTokens cs) := by
  have hread : ∀ ys, ys <:+ cs →
      Token.readFrom? 0 (escapeFrom .text ys) = some (lenientFrom 0 none ys) := by
    intro ys hys
    rw [← escapeFrom_markup_none]
    exact readFrom?_escapeFrom_lenient ys.length le_rfl (h.of_suffix hys)
  cases cs with
  | nil => rfl
  | cons c rest =>
      rw [lenientTokens]
      by_cases hmark : c = byteOrderMark
      · -- The mark is no markup, and so escaping leaves it at the start.
        have hlt : c ≠ '<' := by
          rw [hmark]
          decide
        rw [escapeStray, escapeFrom_text_cons, if_neg hlt, Token.ofChars?, if_pos hmark,
          if_pos hmark]
        exact hread rest (List.suffix_cons c rest)
      · rw [ofChars?_escapeStray (by simpa using hmark), if_neg hmark]
        exact hread (c :: rest) List.suffix_rfl

/-- Markup text without declarations and processing instructions is always read, as the lenient
reader reads it.  Each `<` that escaping keeps starts a tag, which the reader ends where escaping
does. -/
theorem parse?_of_undeclared {s : String} (h : Undeclared s.toList) :
    parse? s = some (Forest.ofTokens (lenientTokens s.toList)) ∧
      ∀ m ∈ kept s.toList, tagAt? m = some m.length ∧
        ∀ more, markupAt? (m ++ more) = some (some (.ofMarkup m), m.length) := by
  refine ⟨?_, fun m hm => tag_of_mem_kept h hm⟩
  rw [parse?, parseChars?, ofChars?_of_undeclared h, Option.map_some]

/-- Quotes around signs of markup, an end tag with attributes, a tag that a `<` cuts off, references
without an end, and raw text with an end tag of its own. -/
def strayMarkup : String :=
  "1 < 2 & <p title='a > b' x=\"&\">&amp;&no; &lt</p y='>'><i <b>3</b><script>a<b</b></SCRIPT ></"

theorem parse?_strayMarkup :
    Undeclared strayMarkup.toList ∧
      parse? strayMarkup =
        some [.text "1 < 2 & ",
          .element "p" (.ofList [("title", "a > b"), ("x", "&")])
            [.text "&&no; &lt<i ", .element "b" .empty [.text "3"],
              .element "script" .empty [.text "a<b</b>"], .text "</"]] := by
  have h : Undeclared strayMarkup.toList := by
    constructor <;> decide +kernel
  have htree : Forest.ofTokens (lenientTokens strayMarkup.toList) =
        [.text "1 < 2 & ",
          .element "p" (.ofList [("title", "a > b"), ("x", "&")])
            [.text "&&no; &lt<i ", .element "b" .empty [.text "3"],
              .element "script" .empty [.text "a<b</b>"], .text "</"]] := by
    decide +kernel
  exact ⟨h, (parse?_of_undeclared h).1.trans (congrArg some htree)⟩

end Markup

end PagePress
