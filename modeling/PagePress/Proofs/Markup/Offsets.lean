import PagePress.Proofs.Markup.RawPrefix
import PagePress.Proofs.Text.Checked

/-!
# Offsets — escaping by cutting up the bytes of a text

Escaping can go by offsets: a `<` is searched for, the end of its tag is found by scanning bytes,
the end of raw text in a copy with its letters lowered, and what lies between is cut out of the
text.

* `escapeByOffsets` escapes in this way, where every cut could be in the wrong place and both loops
  could go on for ever;
* `closeFrom?_encode`: bytes lead to the same end of a tag as characters do;
* `rawTextEnd_eq`: the end of raw text has the same offset in the lowered copy as in the text;
* `escapeRound_eq`: a round passes over a part of the text, and writes what becomes of it;
* `escapeByOffsets_succeeds`: no cut is ever in the wrong place, each round goes further, and the
  result is the escaped text.
-/

namespace PagePress

namespace Markup

open Text (encode offsetOf? offsetWhere? Leads)
open Checked (Fault sub slice loop)
open View (endTagStart)

/-! ## Ends of markup -/

/-- The byte of a letter. -/
def isLetter (b : UInt8) : Bool :=
  ('A'.toUInt8 ≤ b && b ≤ 'Z'.toUInt8) || ('a'.toUInt8 ≤ b && b ≤ 'z'.toUInt8)

/-- The offset behind the `>` of a tag, whose bytes from an offset on are given; quoted attribute
values are passed over, and none is found if a `<` or the end comes first. -/
def closeFrom? (quote : Option UInt8) (offset : Nat) : List UInt8 → Option Nat
  | [] => none
  | b :: bs =>
    match quote with
    | some q => closeFrom? (if b = q then none else some q) (offset + 1) bs
    | none =>
      if b = '"'.toUInt8 ∨ b = '\''.toUInt8 then closeFrom? (some b) (offset + 1) bs
      else if b = '>'.toUInt8 then some (offset + 1)
      else if b = '<'.toUInt8 then none
      else closeFrom? none (offset + 1) bs

/-- The offset behind the tag that starts at an offset. -/
def tagEnd? (cs : List Char) (start : Nat) : Option Nat :=
  closeFrom? none (start + 1) ((encode cs).drop (start + 1))

/-- The offset behind the first occurrence of a word from an offset on. -/
def through (cs : List Char) (start : Nat) (word : List Char) : Except Fault (Option Nat) := do
  let rest ← slice cs start (encode cs).length
  pure ((offsetOf? word rest).map fun i => start + i + (encode word).length)

/-- The offset behind the markup that the `<` at an offset starts, if it starts any. -/
def markupEnd (cs : List Char) (start : Nat) : Except Fault (Option Nat) :=
  match (encode cs)[start + 1]? with
  | none => pure none
  | some b =>
    if isLetter b then pure (tagEnd? cs start)
    else if b = '/'.toUInt8 ∧ ((encode cs)[start + 2]?).any isLetter then pure (tagEnd? cs start)
    else if b = '!'.toUInt8 then do
      let rest ← slice cs start (encode cs).length
      if ['<', '!', '-', '-'].isPrefixOf rest then through cs start ['-', '-', '>']
      else through cs start ['>']
    else if b = '?'.toUInt8 then through cs start ['>']
    else pure none

/-! ## Raw text -/

/-- The raw text element that a tag opens; the tag is given with its `<`. -/
def rawTextElement (tag : List Char) : Except Fault (Option String) :=
  if ['<', '/'].isPrefixOf tag || ['/', '>'].isSuffixOf tag then pure none
  else do
    let content ← slice tag 1 (encode tag).length
    let most ← sub (encode tag).length 1
    let length := (offsetWhere? (fun c => !Text.isAlnum c) content).getD most
    let name ← slice tag 1 (length + 1)
    pure (rawTextNames.find? fun raw => Text.lower name == Text.lower raw.toList)

/-- A byte behind which the name of an end tag does not go on. -/
def endsName (b : UInt8) : Bool :=
  ['>', '/', ' ', '\t', '\n', '\x0c', '\r'].any fun c => b == c.toUInt8

/-- One round of the search for an end tag in a lowered text: it goes on behind a name that starts
like the one that is looked for. -/
def endTagRound (needle low : List Char) (search : Nat) : Except Fault (Nat ⊕ Option Nat) := do
  let rest ← slice low search (encode low).length
  match offsetOf? needle rest with
  | none => pure (.inr none)
  | some i =>
    let behind := search + i + (encode needle).length
    if ((encode low)[behind]?).all endsName then pure (.inr (some (search + i)))
    else pure (.inl behind)

/-- The offset of the end tag of a raw text element from an offset on, or that of the end. -/
def rawTextEnd (cs : List Char) (start : Nat) (name : String) : Except Fault Nat := do
  let rest ← slice cs start (encode cs).length
  let low := Text.lower rest
  match ← loop (endTagRound (endTagStart name) low) ((encode low).length + 1) 0 with
  | some found => pure (start + found)
  | none => pure (encode cs).length

/-! ## Rewriting -/

/-- What is written for the `<` at an offset and what belongs to it, with the offset behind: the
markup that it starts and the raw text that this opens, or the `<` alone. -/
def escapeSign (cs : List Char) (start : Nat) : Except Fault (Nat × List Char) := do
  match ← markupEnd cs start with
  | none => pure (start + 1, "&lt;".toList)
  | some stop => do
    let tag ← slice cs start stop
    match ← rawTextElement tag with
    | none => pure (stop, tag)
    | some name => do
      let close ← rawTextEnd cs stop name
      let raw ← slice cs stop close
      pure (close, tag ++ raw.flatMap (escapeRawChar name))

/-- One round of escaping, from the offset that is reached and with what is written so far. -/
def escapeRound (cs : List Char) (state : Nat × List Char) :
    Except Fault ((Nat × List Char) ⊕ List Char) := do
  let (pos, out) := state
  let rest ← slice cs pos (encode cs).length
  match offsetOf? ['<'] rest with
  | none => do
    let rest ← slice cs pos (encode cs).length
    pure (.inr (out ++ rest))
  | some offset => do
    let before ← slice cs pos (pos + offset)
    let (next, written) ← escapeSign cs (pos + offset)
    pure (.inl (next, out ++ before ++ written))

/-- Escapes a text by offsets; without a `<` there is nothing to do. -/
def escapeByOffsets (cs : List Char) : Except Fault (List Char) :=
  if '<' ∈ cs then loop (escapeRound cs) ((encode cs).length + 1) (0, []) else pure cs

/-! ## Bytes of tags -/

theorem isLetter_of_leads {b : UInt8} {c : Char} (h : Leads b c) : isLetter b = c.isAlpha := by
  have hupper : c.isUpper = true ↔ 65 ≤ c.toNat ∧ c.toNat ≤ 90 := Text.isUpper_iff
  have hlower : c.isLower = true ↔ 97 ≤ c.toNat ∧ c.toNat ≤ 122 := Text.isLower_iff
  have hA : 'A'.toUInt8.toNat = 65 := rfl
  have hZ : 'Z'.toUInt8.toNat = 90 := rfl
  have ha : 'a'.toUInt8.toNat = 97 := rfl
  have hz : 'z'.toUInt8.toNat = 122 := rfl
  rw [Bool.eq_iff_iff, Text.isAlpha_iff, hupper, hlower, isLetter]
  simp only [Bool.or_eq_true, Bool.and_eq_true, decide_eq_true_eq, UInt8.le_iff_toNat_le, hA, hZ,
    ha, hz]
  rcases h with h | ⟨hb, hc⟩ <;> omega

theorem endsName_of_leads {b : UInt8} {c : Char} (h : Leads b c) :
    endsName b = (decide (c = '>') || decide (c = '/') || Text.isSpace c) := by
  have hfeed : c = '\x0c' ↔ c.toNat = 12 := by
    rw [← Char.toNat_inj]
    rfl
  simp only [endsName, List.any_cons, List.any_nil, Text.isSpace, beq_eq_decide, ← hfeed,
    h.eq_iff (d := '>') (by decide), h.eq_iff (d := '/') (by decide),
    h.eq_iff (d := ' ') (by decide), h.eq_iff (d := '\t') (by decide),
    h.eq_iff (d := '\n') (by decide), h.eq_iff (d := '\x0c') (by decide),
    h.eq_iff (d := '\r') (by decide)]
  rw [Bool.eq_iff_iff]
  simp only [Bool.or_eq_true, decide_eq_true_eq, Bool.false_eq_true, or_false]
  tauto

/-- Bytes that are none of ASCII are passed over. -/
theorem closeFrom?_pass {q : Option UInt8} (hq : ∀ b ∈ q, b.toNat < 128) {bs : List UInt8}
    (hbs : ∀ b ∈ bs, 128 ≤ b.toNat) (more : List UInt8) :
    ∀ offset, closeFrom? q offset (bs ++ more) = closeFrom? q (offset + bs.length) more := by
  induction bs with
  | nil => exact fun _ => rfl
  | cons b bs ih =>
      intro offset
      rcases List.forall_mem_cons.1 hbs with ⟨hb, hrest⟩
      have hne : ∀ d : UInt8, d.toNat < 128 → b ≠ d := by
        rintro d hd rfl
        omega
      have hpass : closeFrom? q offset (b :: (bs ++ more)) =
          closeFrom? q (offset + 1) (bs ++ more) := by
        cases q with
        | some q => rw [closeFrom?, if_neg (hne q (hq q rfl))]
        | none =>
            rw [closeFrom?, if_neg (by simp [hne _ (show '"'.toUInt8.toNat < 128 by decide),
              hne _ (show '\''.toUInt8.toNat < 128 by decide)]),
              if_neg (hne _ (by decide)), if_neg (hne _ (by decide))]
      rw [List.cons_append, hpass, ih hrest, List.length_cons, Nat.add_assoc, Nat.add_comm 1]

/-- So are the characters that they belong to. -/
theorem tagLength?_pass {q : Option Char} (hq : ∀ d ∈ q, d.toNat < 128) {c : Char}
    (hc : 128 ≤ c.toNat) (cs : List Char) :
    tagLength? q (c :: cs) = (tagLength? q cs).map (· + 1) := by
  have hne : ∀ d : Char, d.toNat < 128 → c ≠ d := by
    rintro d hd rfl
    omega
  cases q with
  | some q => rw [tagLength?, if_neg (hne q (hq q rfl))]
  | none =>
      simp [tagLength?, hne '>' (by decide), hne '<' (by decide), hne '"' (by decide),
        hne '\'' (by decide)]

/-- The bytes of a tag lead to the same end as its characters do. -/
theorem closeFrom?_encode (cs : List Char) :
    ∀ (q : Option Char) (offset : Nat), (∀ c ∈ q, c.toNat < 128) →
      closeFrom? (q.map Char.toUInt8) offset (encode cs) =
        (tagLength? q cs).map fun n => offset + (encode (cs.take n)).length := by
  induction cs with
  | nil =>
      intro q offset _
      cases q <;> rfl
  | cons c cs ih =>
      intro q offset hq
      -- Once the character is passed, the rest is measured from behind it.
      have hnext : ∀ q' : Option Char, (∀ d ∈ q', d.toNat < 128) →
          closeFrom? (q'.map Char.toUInt8) (offset + c.utf8Size) (encode cs) =
            ((tagLength? q' cs).map (· + 1)).map fun n =>
              offset + (encode ((c :: cs).take n)).length := by
        intro q' hq'
        rw [ih q' _ hq', Option.map_map]
        refine congrFun (congrArg Option.map (funext fun n => ?_)) _
        simp only [Function.comp_apply, List.take_succ_cons, Text.length_encode_cons]
        exact Nat.add_assoc ..
      by_cases hc : c.toNat < 128
      · have hsize : c.utf8Size = 1 := Text.utf8Size_eq_one_iff.2 hc
        have hlead : Leads c.toUInt8 c := .inl (Text.toNat_toUInt8 hc)
        rw [Text.encode_cons, Text.utf8EncodeChar_of_lt hc, List.singleton_append]
        rw [hsize] at hnext
        cases q with
        | some q =>
            have hquote : c.toUInt8 = q.toUInt8 ↔ c = q := hlead.eq_iff (hq q rfl)
            rw [tagLength?, Option.map_some, closeFrom?]
            by_cases heq : c = q
            · rw [if_pos (hquote.2 heq), if_pos heq]
              exact hnext none (by simp)
            · rw [if_neg (mt hquote.1 heq), if_neg heq]
              exact hnext (some q) hq
        | none =>
            have hdouble : c.toUInt8 = '"'.toUInt8 ↔ c = '"' := hlead.eq_iff (by decide)
            have hsingle : c.toUInt8 = '\''.toUInt8 ↔ c = '\'' := hlead.eq_iff (by decide)
            have hgt : c.toUInt8 = '>'.toUInt8 ↔ c = '>' := hlead.eq_iff (by decide)
            have hlt : c.toUInt8 = '<'.toUInt8 ↔ c = '<' := hlead.eq_iff (by decide)
            simp only [tagLength?, Option.map_none, closeFrom?, hdouble, hsingle, hgt, hlt,
              Bool.or_eq_true, decide_eq_true_eq]
            by_cases hquote : c = '"' ∨ c = '\''
            · -- A quote is neither of the two signs that end the scan.
              have hne : c ≠ '>' ∧ c ≠ '<' := by
                rcases hquote with rfl | rfl <;> decide
              rw [if_pos hquote, if_neg hne.1, if_neg hne.2, if_pos hquote]
              exact hnext (some c) (by simpa using hc)
            · rw [if_neg hquote, if_neg hquote]
              split
              · simp [Text.length_encode_cons, hsize]
                rfl
              · split
                · rfl
                · exact hnext none (by simp)
      · -- No byte of any other character is a sign that the scan looks for.
        have hle : 128 ≤ c.toNat := Nat.le_of_not_lt hc
        have hq' : ∀ b ∈ q.map Char.toUInt8, b.toNat < 128 := by
          intro b hb
          obtain ⟨d, hd, rfl⟩ := Option.map_eq_some_iff.1 hb
          have hlt := hq d hd
          rwa [Text.toNat_toUInt8 hlt]
        rw [Text.encode_cons, closeFrom?_pass hq' (Text.le_of_mem_utf8EncodeChar hle),
          String.length_utf8EncodeChar, tagLength?_pass hq hle]
        exact hnext q hq

/-! ## Ends of markup -/

/-- What is found behind a `<` from its offset on is found behind it. -/
theorem through_eq (pre rest : List Char) {w : Char} (hw : w ≠ '<') (ws : List Char) :
    through (pre ++ '<' :: rest) (encode pre).length (w :: ws) =
      .ok ((Text.find? (w :: ws) rest).map fun n =>
        (encode (pre ++ '<' :: rest.take (n + (w :: ws).length))).length) := by
  have hfind : Text.find? (w :: ws) ('<' :: rest) = (Text.find? (w :: ws) rest).map (· + 1) := by
    rw [Text.find?, if_neg (by simp [hw])]
  rw [through, Checked.slice_rest, Checked.ok_bind, Text.offsetOf?_eq, hfind]
  refine congrArg Except.ok ?_
  cases hrest : Text.find? (w :: ws) rest with
  | none => rfl
  | some n =>
      obtain ⟨xs, ys, rfl, rfl⟩ := Text.exists_of_find? hrest
      have hbefore : ('<' :: (xs ++ w :: ws ++ ys)).take (xs.length + 1) = '<' :: xs := by
        rw [List.take_succ_cons, List.append_assoc, List.take_left]
      have hthrough : (xs ++ w :: ws ++ ys).take (xs.length + (w :: ws).length) =
          xs ++ w :: ws := by
        rw [← List.length_append, List.take_left]
      simp only [Option.map_some, hbefore, hthrough]
      rw [← List.cons_append, Text.length_encode_append, Text.length_encode_append,
        Nat.add_assoc]

/-- The scan for the end of a tag starts behind its `<`. -/
theorem tagEnd?_eq (pre rest : List Char) :
    tagEnd? (pre ++ '<' :: rest) (encode pre).length =
      (tagLength? none rest).map fun n => (encode (pre ++ '<' :: rest.take n)).length := by
  have hdrop : (encode (pre ++ '<' :: rest)).drop ((encode pre).length + 1) = encode rest := by
    rw [Text.encode_append, List.drop_length_add_append]
    rfl
  rw [tagEnd?, hdrop]
  refine (closeFrom?_encode rest none _ (by simp)).trans ?_
  refine congrFun (congrArg Option.map (funext fun n => ?_)) _
  rw [Text.length_encode_append, Text.length_encode_cons]
  exact Nat.add_assoc ..

/-- Whether a letter comes first can be told from the first byte. -/
theorem any_isLetter (cs : List Char) :
    (encode cs).head?.any isLetter = cs.head?.any Char.isAlpha := by
  cases cs with
  | nil => rfl
  | cons c cs =>
      obtain ⟨b, hb, hlead⟩ := Text.leads_encode c cs
      rw [hb]
      exact isLetter_of_leads hlead

theorem markupLength?_slash (rest : List Char) :
    markupLength? ('/' :: rest) =
      if rest.head?.any Char.isAlpha then tagLength? none ('/' :: rest) else none := by
  cases rest with
  | nil => rfl
  | cons c rest => rfl

theorem markupLength?_bang (rest : List Char) :
    markupLength? ('!' :: rest) =
      if ['-', '-'].isPrefixOf rest then (Text.find? ['-', '-', '>'] ('!' :: rest)).map (· + 3)
      else throughClose? ('!' :: rest) := by
  split
  · rename_i hdashes
    obtain ⟨more, rfl⟩ := List.isPrefixOf_iff_prefix.1 hdashes
    rfl
  · rename_i hdashes
    rw [markupLength?]
    rintro more rfl
    exact hdashes rfl

/-- No other sign starts markup. -/
theorem markupLength?_of_ne {c : Char} {rest : List Char} (hletter : ¬ c.isAlpha = true)
    (hslash : c ≠ '/') (hbang : c ≠ '!') (hquestion : c ≠ '?') :
    markupLength? (c :: rest) = none := by
  rw [markupLength?, if_neg hletter]
  · exact fun _ _ heq _ => absurd heq hslash
  · exact fun _ heq => absurd heq hbang
  · exact fun heq => absurd heq hbang
  · exact fun heq => absurd heq hquestion

/-- The end of markup is as far behind its start as it is long. -/
theorem markupEnd_eq (pre rest : List Char) :
    markupEnd (pre ++ '<' :: rest) (encode pre).length =
      .ok ((markupLength? rest).map fun n => (encode (pre ++ '<' :: rest.take n)).length) := by
  -- The bytes looked at are those of the first two characters behind the `<`.
  have hbyte : ∀ n, (encode (pre ++ '<' :: rest))[(encode pre).length + (n + 1)]? =
      (encode rest)[n]? := by
    intro n
    rw [Text.encode_append, List.getElem?_append_right (Nat.le_add_right ..),
      Nat.add_sub_cancel_left]
    rfl
  rw [markupEnd, hbyte 0, hbyte 1, ← List.head?_eq_getElem?]
  cases rest with
  | nil => rfl
  | cons c rest =>
      obtain ⟨b, hb, hlead⟩ := Text.leads_encode c rest
      rw [hb]
      simp only [isLetter_of_leads hlead, hlead.eq_iff (d := '/') (by decide),
        hlead.eq_iff (d := '!') (by decide), hlead.eq_iff (d := '?') (by decide)]
      by_cases hletter : c.isAlpha = true
      · rw [if_pos hletter, tagEnd?_eq, markupLength?_of_isAlpha hletter]
        rfl
      rw [if_neg hletter]
      by_cases hslash : c = '/'
      · subst hslash
        have hsecond : (encode ('/' :: rest))[1]? = (encode rest).head? := by
          rw [List.head?_eq_getElem?]
          rfl
        rw [hsecond, any_isLetter, markupLength?_slash]
        by_cases hany : rest.head?.any Char.isAlpha = true
        · rw [if_pos ⟨rfl, hany⟩, if_pos hany, tagEnd?_eq]
          rfl
        · rw [if_neg fun h => hany h.2, if_neg hany]
          rfl
      rw [if_neg fun h => hslash h.1]
      by_cases hbang : c = '!'
      · subst hbang
        have hcomment : ['<', '!', '-', '-'].isPrefixOf ('<' :: '!' :: rest) =
            ['-', '-'].isPrefixOf rest := rfl
        rw [if_pos rfl, Checked.slice_rest, Checked.ok_bind, hcomment, markupLength?_bang]
        split
        · -- The two dashes at its start may be those at its end: `<!-->` is a comment.
          rw [through_eq _ _ (by decide), Option.map_map]
          rfl
        · rw [through_eq _ _ (by decide), throughClose?, Option.map_map]
          rfl
      rw [if_neg hbang]
      by_cases hquestion : c = '?'
      · subst hquestion
        have hlength : markupLength? ('?' :: rest) = throughClose? ('?' :: rest) := rfl
        rw [if_pos rfl, through_eq _ _ (by decide), hlength, throughClose?, Option.map_map]
        rfl
      rw [if_neg hquestion, markupLength?_of_ne hletter hslash hbang hquestion]
      rfl

/-! ## Raw text -/

theorem isSuffixOf_cons_lt (m : List Char) :
    ['/', '>'].isSuffixOf ('<' :: m) = ['>', '/'].isPrefixOf m.reverse := by
  change ['>', '/'].isPrefixOf ('<' :: m).reverse = _
  rw [List.reverse_cons]
  rcases m.reverse with _ | ⟨c, _ | ⟨d, cs⟩⟩
  · rfl
  · simp [List.isPrefixOf]
  · simp [List.isPrefixOf]

/-- Names in small letters are compared without letter case by lowering the other side alone. -/
theorem find?_lower (name : List Char) {raws : List String}
    (h : ∀ raw ∈ raws, Text.lower raw.toList = raw.toList) :
    (raws.find? fun raw => Text.lower name == Text.lower raw.toList) =
      raws.find? (· == String.ofList (Text.lower name)) := by
  induction raws with
  | nil => rfl
  | cons raw raws ih =>
      rcases List.forall_mem_cons.1 h with ⟨hraw, hraws⟩
      have hsame : (Text.lower name == Text.lower raw.toList) =
          (raw == String.ofList (Text.lower name)) := by
        rw [hraw, Bool.eq_iff_iff, beq_iff_eq, beq_iff_eq, ← String.toList_inj,
          String.toList_ofList]
        exact eq_comm
      rw [List.find?_cons, List.find?_cons, hsame, ih hraws]

/-- The name of a tag is cut out of it where its letters and digits end. -/
theorem rawTextElement_eq (m : List Char) :
    rawTextElement ('<' :: m) = .ok (rawTextName? m) := by
  have hslash : ['<', '/'].isPrefixOf ('<' :: m) = decide (m.head? = some '/') := by
    cases m with
    | nil => rfl
    | cons c m => simp [List.isPrefixOf, beq_eq_decide, eq_comm (a := c)]
  rw [rawTextElement, rawTextName?, hslash, isSuffixOf_cons_lt]
  split
  · rfl
  · have hcontent : slice ('<' :: m) 1 (encode ('<' :: m)).length = .ok m :=
      Checked.slice_rest ['<'] m
    have hmost : sub (encode ('<' :: m)).length 1 = .ok (encode m).length :=
      Checked.sub_of_le (Nat.succ_pos _)
    have hlength := Text.offsetWhere?_getD (fun c => !Text.isAlnum c) m
    simp only [Bool.not_not] at hlength
    have hname : slice ('<' :: m) 1 ((encode (m.takeWhile Text.isAlnum)).length + 1) =
        .ok (m.takeWhile Text.isAlnum) := by
      refine Checked.slice_eq_ok_iff.2 ⟨['<'], m.dropWhile Text.isAlnum, ?_, rfl, rfl⟩
      rw [List.append_assoc, List.takeWhile_append_dropWhile]
      rfl
    simp only [hcontent, hmost, Checked.ok_bind, hlength, hname,
      find?_lower _ (show ∀ raw ∈ rawTextNames, Text.lower raw.toList = raw.toList by decide)]
    rfl

/-! ### Its end -/

/-- Signs that end a name are the same in lowered text. -/
theorem endsName_toLower {b : UInt8} {c : Char} (h : Leads b c.toLower) :
    endsName b = (decide (c = '>') || decide (c = '/') || Text.isSpace c) := by
  rw [endsName_of_leads h]
  by_cases hc : c.isUpper = true
  · -- A capital is a letter in either case.
    have hcode : 65 ≤ c.toNat ∧ c.toNat ≤ 90 := Text.isUpper_iff.1 hc
    have hlower := Text.toNat_toLower hc
    have hne : ∀ d : Char, d.toNat < 65 → c ≠ d ∧ c.toLower ≠ d := by
      intro d hd
      constructor <;> rintro rfl <;> omega
    have hfeed : c.toNat ≠ 12 ∧ c.toLower.toNat ≠ 12 := by omega
    simp [Text.isSpace, hne '>' (by decide), hne '/' (by decide), hne ' ' (by decide),
      hne '\t' (by decide), hne '\n' (by decide), hne '\r' (by decide), hfeed]
  · rw [Text.toLower_of_isUpper_eq_false (by simpa using hc)]

theorem endsRawText_append {name : String} {w : List Char} (hw : Text.lower w = endTagStart name)
    (rest : List Char) :
    endsRawText name (w ++ rest) = (encode (Text.lower rest)).head?.all endsName := by
  have hstarts : Text.startsWithLower ('<' :: '/' :: name.toList) (w ++ rest) = true := by
    rw [startsWithLower_iff, Text.lower, List.map_append]
    exact ⟨Text.lower rest, congrArg (· ++ Text.lower rest) hw.symm⟩
  have hlength : ('<' :: '/' :: name.toList).length = w.length :=
    (congrArg List.length hw).symm.trans (List.length_map ..)
  rw [endsRawText, hstarts, hlength, List.drop_left, Bool.true_and]
  cases rest with
  | nil => rfl
  | cons c rest =>
      obtain ⟨b, hb, hlead⟩ := Text.leads_encode c.toLower (Text.lower rest)
      have hcons : Text.lower (c :: rest) = c.toLower :: Text.lower rest := rfl
      rw [hcons, hb]
      exact (endsName_toLower hlead).symm

/-- At its end tag, no raw text is left. -/
theorem rawLength_eq_zero {name : String} {cs : List Char} (h : endsRawText name cs = true) :
    rawLength name cs = 0 := by
  cases cs with
  | nil => rfl
  | cons c cs => rw [rawLength, if_pos h]

/-- Raw text goes on where the start of the end tag does not stand. -/
theorem rawLength_cons_of_not_start {name : String} {c : Char} {cs : List Char}
    (h : ¬ endTagStart name <+: Text.lower (c :: cs)) :
    rawLength name (c :: cs) = rawLength name cs + 1 := by
  have hends : endsRawText name (c :: cs) = false := by
    have hstarts : Text.startsWithLower (endTagStart name) (c :: cs) = false := by
      rw [← Bool.not_eq_true, startsWithLower_iff]
      exact h
    exact (congrArg (· && _) hstarts).trans (Bool.false_and _)
  rw [rawLength, hends]
  rfl

theorem rawLength_append_of_lt_not_mem {name : String} {xs : List Char} (h : '<' ∉ xs)
    (ys : List Char) : rawLength name (xs ++ ys) = xs.length + rawLength name ys := by
  induction xs with
  | nil => exact (Nat.zero_add _).symm
  | cons c xs ih =>
      rw [List.mem_cons, not_or] at h
      rw [List.cons_append, rawLength, endsRawText_of_ne (Ne.symm h.1), ih h.2, List.length_cons,
        Nat.add_right_comm]
      rfl

/-- Without the start of the end tag, all of the text is raw. -/
theorem rawLength_of_find?_none {name : String} {ys : List Char}
    (h : Text.find? (endTagStart name) (Text.lower ys) = none) : rawLength name ys = ys.length := by
  induction ys with
  | nil => rfl
  | cons c ys ih =>
      have hcons : Text.lower (c :: ys) = c.toLower :: Text.lower ys := rfl
      rw [hcons, Text.find?] at h
      split at h
      · cases h
      · rename_i hprefix
        rw [rawLength_cons_of_not_start (by simpa [hcons] using hprefix),
          ih (Option.map_eq_none_iff.1 h), List.length_cons]

/-- Where the start of the end tag is found first, raw text goes on up to there. -/
theorem rawLength_of_find?_some {name : String} {ys : List Char} {n : Nat}
    (h : Text.find? (endTagStart name) (Text.lower ys) = some n) :
    ∃ xs w rest, ys = xs ++ (w ++ rest) ∧ xs.length = n ∧ Text.lower w = endTagStart name ∧
      rawLength name ys = n + rawLength name (w ++ rest) := by
  induction ys generalizing n with
  | nil => cases h
  | cons c ys ih =>
      have hcons : Text.lower (c :: ys) = c.toLower :: Text.lower ys := rfl
      rw [hcons, Text.find?] at h
      split at h
      · rename_i hprefix
        cases h
        obtain ⟨rest', hrest'⟩ := List.isPrefixOf_iff_prefix.1 hprefix
        rw [← hcons] at hrest'
        obtain ⟨w, rest, hsplit, hw, -⟩ := List.map_eq_append_iff.1 hrest'.symm
        exact ⟨[], w, rest, hsplit, rfl, hw, by rw [hsplit, Nat.zero_add]⟩
      · rename_i hprefix
        obtain ⟨m, hm, rfl⟩ := Option.map_eq_some_iff.1 h
        obtain ⟨xs, w, rest, rfl, rfl, hw, hlength⟩ := ih hm
        refine ⟨c :: xs, w, rest, rfl, rfl, hw, ?_⟩
        rw [rawLength_cons_of_not_start (by simpa [hcons] using hprefix), hlength,
          Nat.add_right_comm]

/-- Behind the start of an end tag whose name goes on, raw text goes on up to the next `<`. -/
theorem rawLength_of_name_goes_on {name : String} {w rest : List Char}
    (hw : Text.lower w = endTagStart name) (hname : '<' ∉ name.toList)
    (h : endsRawText name (w ++ rest) = false) :
    rawLength name (w ++ rest) = w.length + rawLength name rest := by
  obtain ⟨c, w, rfl⟩ : ∃ c ds, w = c :: ds := by
    cases w with
    | nil => cases hw
    | cons c w => exact ⟨c, w, rfl⟩
  have hlt : '<' ∉ w := by
    intro hmem
    have hlower : '<' ∈ Text.lower w := List.mem_map.2 ⟨'<', hmem, rfl⟩
    have htail : Text.lower w = '/' :: name.toList := (List.cons.inj hw).2
    rw [htail] at hlower
    rcases List.mem_cons.1 hlower with heq | hmem
    · cases heq
    · exact hname hmem
  rw [List.cons_append] at h ⊢
  rw [rawLength, h, rawLength_append_of_lt_not_mem hlt, List.length_cons, Nat.add_right_comm]
  rfl

/-- The rest of a lowered text is the lowered rest. -/
theorem slice_lower (xs ys : List Char) :
    slice (Text.lower (xs ++ ys)) (encode xs).length (encode (Text.lower (xs ++ ys))).length =
      .ok (Text.lower ys) := by
  have hlow : Text.lower (xs ++ ys) = Text.lower xs ++ Text.lower ys := List.map_append
  rw [hlow, ← Text.length_encode_lower xs]
  exact Checked.slice_rest ..

/-- A round that finds the start of the end tag behind `zs` looks at the byte behind it. -/
theorem endTagRound_of_find?_some {name : String} (xs : List Char) {zs w rest : List Char}
    (hw : Text.lower w = endTagStart name)
    (h : Text.find? (endTagStart name) (Text.lower (zs ++ (w ++ rest))) = some zs.length) :
    endTagRound (endTagStart name) (Text.lower (xs ++ (zs ++ (w ++ rest)))) (encode xs).length =
      .ok (if endsRawText name (w ++ rest) then .inr (some (encode (xs ++ zs)).length)
        else .inl (encode (xs ++ (zs ++ w))).length) := by
  have hslice := slice_lower xs (zs ++ (w ++ rest))
  have htake : (Text.lower (zs ++ (w ++ rest))).take zs.length = Text.lower zs := by
    rw [Text.lower, ← List.map_take, List.take_left]
    rfl
  have hfound := (Text.length_encode_append xs zs).symm
  have hbehind : (encode (xs ++ zs)).length + (encode (endTagStart name)).length =
      (encode (xs ++ (zs ++ w))).length := by
    rw [← hw, Text.length_encode_lower, ← List.append_assoc, Text.length_encode_append _ w]
  have hbyte :
      (encode (Text.lower (xs ++ (zs ++ (w ++ rest)))))[(encode (xs ++ (zs ++ w))).length]? =
        (encode (Text.lower rest)).head? := by
    have hsplit : Text.lower (xs ++ (zs ++ (w ++ rest))) =
        Text.lower (xs ++ (zs ++ w)) ++ Text.lower rest := by
      simp [Text.lower]
    rw [hsplit, Text.encode_append, ← Text.length_encode_lower (xs ++ (zs ++ w)),
      List.getElem?_append_right le_rfl, Nat.sub_self, List.head?_eq_getElem?]
  rw [endTagRound, hslice, Checked.ok_bind, Text.offsetOf?_eq, h]
  simp only [Option.map_some, htake, Text.length_encode_lower, hfound, hbehind, hbyte,
    ← endsRawText_append hw]
  split <;> rfl

/-- A round of the search, at a place up to which the text is raw: the end is found where raw text
ends, or the text is raw up to a place further behind. -/
theorem endTagRound_eq {name : String} (hname : '<' ∉ name.toList) {xs ys : List Char}
    (h : rawLength name (xs ++ ys) = xs.length + rawLength name ys) :
    (rawLength name (xs ++ ys) = (xs ++ ys).length ∧
      endTagRound (endTagStart name) (Text.lower (xs ++ ys)) (encode xs).length =
        .ok (.inr none)) ∨
    (endTagRound (endTagStart name) (Text.lower (xs ++ ys)) (encode xs).length =
        .ok (.inr (some (encode ((xs ++ ys).take (rawLength name (xs ++ ys)))).length)) ∧
      rawLength name (xs ++ ys) < (xs ++ ys).length) ∨
    ∃ w rest, ys = w ++ rest ∧ w ≠ [] ∧
      rawLength name (xs ++ ys) = (xs ++ w).length + rawLength name rest ∧
      endTagRound (endTagStart name) (Text.lower (xs ++ ys)) (encode xs).length =
        .ok (.inl (encode (xs ++ w)).length) := by
  cases hfind : Text.find? (endTagStart name) (Text.lower ys) with
  | none =>
      left
      rw [h, rawLength_of_find?_none hfind, List.length_append, endTagRound, slice_lower,
        Checked.ok_bind, Text.offsetOf?_eq, hfind]
      exact ⟨rfl, rfl⟩
  | some n =>
      right
      obtain ⟨zs, w, rest, rfl, rfl, hw, hlength⟩ := rawLength_of_find?_some hfind
      have hround := endTagRound_of_find?_some xs hw hfind
      have hne : w ≠ [] := by
        rintro rfl
        cases hw
      have hpos : 0 < w.length := List.length_pos_iff.2 hne
      by_cases hends : endsRawText name (w ++ rest) = true
      · -- The name ends there, and so does the raw text.
        left
        have htotal : rawLength name (xs ++ (zs ++ (w ++ rest))) = (xs ++ zs).length := by
          rw [h, hlength, rawLength_eq_zero hends, List.length_append]
          rfl
        rw [if_pos hends] at hround
        refine ⟨?_, ?_⟩
        · rw [htotal, ← List.append_assoc, List.take_left, List.append_assoc]
          exact hround
        · rw [htotal]
          simp only [List.length_append]
          omega
      · -- A longer name: what is found belongs to the raw text.
        right
        have hgoes := rawLength_of_name_goes_on hw hname (by simpa using hends)
        rw [if_neg hends] at hround
        refine ⟨zs ++ w, rest, (List.append_assoc ..).symm, by simp [hne], ?_, hround⟩
        rw [h, hlength, hgoes]
        simp only [List.length_append]
        omega

/-- The offset of the end of raw text in the lowered copy is its offset in the text. -/
theorem rawTextEnd_eq (pre rest : List Char) {name : String} (hname : '<' ∉ name.toList) :
    rawTextEnd (pre ++ rest) (encode pre).length name =
      .ok (encode (pre ++ rest.take (rawLength name rest))).length := by
  -- Up to the offset that the search has reached, the text is raw.
  have hloop : loop (endTagRound (endTagStart name) (Text.lower rest))
      ((encode (Text.lower rest)).length + 1) 0 =
        .ok (if rawLength name rest < rest.length then
          some (encode (rest.take (rawLength name rest))).length else none) := by
    refine Checked.loop_eq
      (fun search => ∃ xs ys, rest = xs ++ ys ∧ search = (encode xs).length ∧
        rawLength name rest = xs.length + rawLength name ys)
      (fun search => (encode rest).length - search) ?_
      ⟨[], rest, rfl, rfl, (Nat.zero_add _).symm⟩ ?_
    · rintro search ⟨xs, ys, rfl, rfl, h⟩
      rcases endTagRound_eq hname h with ⟨hall, hround⟩ | ⟨hround, hlt⟩ |
        ⟨w, more, rfl, hne, hraw, hround⟩
      · left
        rw [hround, hall, if_neg (Nat.lt_irrefl _)]
      · left
        rw [hround, if_pos hlt]
      · right
        have hlt := Text.length_encode_lt_append xs hne
        refine ⟨_, hround, ⟨xs ++ w, more, (List.append_assoc ..).symm, rfl, hraw⟩, ?_⟩
        simp only [Text.length_encode_append] at hlt ⊢
        omega
    · rw [Text.length_encode_lower]
      omega
  simp only [rawTextEnd, Checked.slice_rest, Checked.ok_bind, hloop]
  by_cases hlt : rawLength name rest < rest.length
  · rw [if_pos hlt]
    refine congrArg Except.ok ?_
    rw [Text.length_encode_append]
  · rw [if_neg hlt, List.take_of_length_le (Nat.le_of_not_lt hlt)]
    rfl

/-! ## Rounds -/

theorem lt_not_mem_of_rawTextName? {m : List Char} {name : String}
    (h : rawTextName? m = some name) : '<' ∉ name.toList := by
  have hall : ∀ raw ∈ rawTextNames, '<' ∉ raw.toList := by decide
  rw [rawTextName?] at h
  split at h
  · cases h
  · exact hall name (List.mem_of_find?_eq_some h)

theorem escapeStray_of_lt_not_mem {cs : List Char} (h : '<' ∉ cs) : escapeStray cs = cs := by
  have htext := escapeFrom_text h []
  rwa [escapeFrom, List.append_nil] at htext

/-- What becomes of the markup behind a `<` and of the raw text that it opens. -/
theorem escapeStray_kept {rest : List Char} {n : Nat} (h : markupLength? rest = some n) :
    escapeStray ('<' :: rest) =
      '<' :: (rest.take n ++ match rawTextName? (rest.take n) with
        | none => escapeStray (rest.drop n)
        | some name => escapeRaw name (rest.drop n)) := by
  have hle := (markupLength?_cases h).1
  have hlength : (rest.take n).length = n := List.length_take_of_le hle
  have hkept : escapeStray ('<' :: (rest.take n ++ rest.drop n)) =
      '<' :: (rest.take n ++
        escapeFrom (.markup 0 (rawTextName? (rest.take n))) (rest.drop n)) :=
    escapeFrom_tag (by rw [List.take_append_drop, hlength, h])
  rw [List.take_append_drop] at hkept
  rw [hkept]
  cases rawTextName? (rest.take n) with
  | none => rw [escapeFrom_markup_none, escapeStray]
  | some name => rw [escapeFrom_markup_some, escapeFrom_raw_eq]

/-- The end of raw text is behind the part that is escaped as raw text. -/
theorem exists_rawTextEnd (pre rest : List Char) {name : String} (hname : '<' ∉ name.toList) :
    ∃ raw more, rest = raw ++ more ∧
      rawTextEnd (pre ++ rest) (encode pre).length name = .ok (encode (pre ++ raw)).length ∧
      escapeRaw name rest = raw.flatMap (escapeRawChar name) ++ escapeStray more :=
  ⟨_, _, (List.take_append_drop ..).symm, rawTextEnd_eq pre rest hname, rfl⟩

/-- What is written for a `<` is what becomes of it and of the part of the text that belongs to
it. -/
theorem escapeSign_eq (pre rest : List Char) :
    ∃ part more written, '<' :: rest = part ++ more ∧ part ≠ [] ∧
      escapeStray ('<' :: rest) = written ++ escapeStray more ∧
      escapeSign (pre ++ '<' :: rest) (encode pre).length =
        .ok ((encode (pre ++ part)).length, written) := by
  rw [escapeSign, markupEnd_eq, Checked.ok_bind]
  cases hlength : markupLength? rest with
  | none =>
      refine ⟨['<'], rest, "&lt;".toList, rfl, List.cons_ne_nil _ _, ?_, ?_⟩
      · rw [escapeStray, escapeFrom_text_cons, if_pos rfl, hlength]
        rfl
      · rw [Text.length_encode_append]
        rfl
  | some n =>
      have hsplit : '<' :: rest = '<' :: rest.take n ++ rest.drop n := by
        rw [List.cons_append, List.take_append_drop]
      have htag : slice (pre ++ '<' :: rest) (encode pre).length
          (encode (pre ++ '<' :: rest.take n)).length = .ok ('<' :: rest.take n) := by
        rw [hsplit, ← List.append_assoc]
        exact Checked.slice_append ..
      have hkept := escapeStray_kept hlength
      rw [Option.map_some]
      simp only [htag, rawTextElement_eq, Checked.ok_bind]
      cases hname : rawTextName? (rest.take n) with
      | none =>
          rw [hname] at hkept
          exact ⟨_, _, _, hsplit, List.cons_ne_nil _ _, hkept, rfl⟩
      | some name =>
          rw [hname] at hkept
          -- The raw text lies between the end of the tag and its own end.
          obtain ⟨raw, more, hrest, hclose, hescape⟩ :=
            exists_rawTextEnd (pre ++ '<' :: rest.take n) (rest.drop n)
              (lt_not_mem_of_rawTextName? hname)
          rw [hrest] at hsplit hclose
          have hraw := Checked.slice_append (pre ++ '<' :: rest.take n) raw more
          rw [List.append_assoc, List.append_assoc, ← hsplit] at hraw
          rw [List.append_assoc, ← hsplit] at hclose
          refine ⟨'<' :: rest.take n ++ raw, more,
            '<' :: rest.take n ++ raw.flatMap (escapeRawChar name), ?_, List.cons_ne_nil _ _,
            ?_, ?_⟩
          · rw [hsplit, List.append_assoc]
          · simp only [hkept, hescape, List.append_assoc, List.cons_append]
          · simp only [hclose, hraw, Checked.ok_bind]
            rw [List.append_assoc]
            rfl

/-- A round from a place between two characters ends the text if no `<` follows, and else it passes
over a part of what follows and writes what becomes of this part. -/
theorem escapeRound_eq (pre post out : List Char) :
    escapeRound (pre ++ post) ((encode pre).length, out) =
        .ok (.inr (out ++ escapeStray post)) ∨
      ∃ part rest written, post = part ++ rest ∧ part ≠ [] ∧
        escapeStray post = written ++ escapeStray rest ∧
        escapeRound (pre ++ post) ((encode pre).length, out) =
          .ok (.inl ((encode (pre ++ part)).length, out ++ written)) := by
  simp only [escapeRound, Checked.slice_rest, Checked.ok_bind, Text.offsetOf?_eq]
  rcases Text.find?_singleton '<' post with ⟨hmem, hfind⟩ | ⟨before, rest, rfl, hbefore, hfind⟩
  · -- Without a `<` the text stays as it is.
    left
    rw [hfind, escapeStray_of_lt_not_mem hmem]
    rfl
  · right
    obtain ⟨part, more, written, hsplit, hne, hwritten, hsign⟩ :=
      escapeSign_eq (pre ++ before) rest
    have htake : (before ++ '<' :: rest).take before.length = before := List.take_left
    have hstart := (Text.length_encode_append pre before).symm
    have hslice : slice (pre ++ before ++ '<' :: rest) (encode pre).length
        (encode (pre ++ before)).length = .ok before := Checked.slice_append ..
    have hescape : escapeStray (before ++ '<' :: rest) = before ++ escapeStray ('<' :: rest) :=
      escapeFrom_text hbefore _
    refine ⟨before ++ part, more, before ++ written, ?_, by simp [hne], ?_, ?_⟩
    · rw [hsplit, List.append_assoc]
    · rw [hescape, hwritten, List.append_assoc]
    · rw [← List.append_assoc pre, ← List.append_assoc pre]
      simp only [hfind, Option.map_some, htake, hstart, hslice, hsign, Checked.ok_bind,
        List.append_assoc out]
      rfl

/-- What is written and what becomes of the rest always make up the escaped text. -/
theorem escapeByOffsets_eq (cs : List Char) : escapeByOffsets cs = .ok (escapeStray cs) := by
  rw [escapeByOffsets]
  split
  · refine Checked.loop_eq
      (fun state => ∃ pre post, cs = pre ++ post ∧ (encode pre).length = state.1 ∧
        state.2 ++ escapeStray post = escapeStray cs)
      (fun state => (encode cs).length - state.1) ?_ ⟨[], cs, rfl, rfl, rfl⟩ (by omega)
    rintro ⟨pos, out⟩ ⟨pre, post, rfl, rfl, hout⟩
    rcases escapeRound_eq pre post out with
      hround | ⟨part, rest, written, rfl, hne, hpost, hround⟩
    · exact .inl (hround.trans (by rw [hout]))
    · right
      have hlt := Text.length_encode_lt_append pre hne
      refine ⟨_, hround, ⟨pre ++ part, rest, (List.append_assoc ..).symm, rfl, ?_⟩, ?_⟩
      · rw [List.append_assoc, ← hpost, hout]
      · simp only [Text.length_encode_append] at hlt ⊢
        omega
  · rename_i hmem
    rw [escapeStray_of_lt_not_mem hmem]
    rfl

example : escapeByOffsets "ä < <Style>é</styles></STYLE >".toList =
    .ok "ä &lt; <Style>é&lt;/styles></STYLE >".toList := by decide +kernel

/-- A round that does not end the text reaches a valid position further behind. -/
theorem escapeRound_advances {s : String} {pos : Nat} (h : (⟨pos⟩ : String.Pos.Raw).IsValid s)
    (out : List Char) :
    (∃ result, escapeRound s.toList (pos, out) = .ok (.inr result)) ∨
      ∃ next written, escapeRound s.toList (pos, out) = .ok (.inl (next, out ++ written)) ∧
        pos < next ∧ (⟨next⟩ : String.Pos.Raw).IsValid s := by
  obtain ⟨pre, post, hs, rfl⟩ := Text.isValid_iff.1 h
  rw [hs]
  rcases escapeRound_eq pre post out with hround | ⟨part, rest, written, rfl, hne, -, hround⟩
  · exact .inl ⟨_, hround⟩
  · right
    exact ⟨_, written, hround, Text.length_encode_lt_append pre hne,
      Text.isValid_iff.2 ⟨pre ++ part, rest, by rw [hs, List.append_assoc], rfl⟩⟩

/-- Escaping a text by offsets gives the escaped text: the bounds it cuts at are in order, within
the text and places between two characters, and the offset grows with each round. -/
theorem escapeByOffsets_succeeds (s : String) :
    escapeByOffsets s.toList = .ok (escapeStray s.toList) ∧
      ∀ pos out, (⟨pos⟩ : String.Pos.Raw).IsValid s →
        (∃ result, escapeRound s.toList (pos, out) = .ok (.inr result)) ∨
          ∃ next written, escapeRound s.toList (pos, out) = .ok (.inl (next, out ++ written)) ∧
            pos < next ∧ (⟨next⟩ : String.Pos.Raw).IsValid s :=
  ⟨escapeByOffsets_eq s.toList, fun _ out h => escapeRound_advances h out⟩

end Markup

end PagePress
