import PagePress.Markup.Forest
import PagePress.Proofs.Markup.Escape

/-!
# Acceptance — which markup texts are read

Escaping keeps tags, comments, declarations and processing instructions, and the reader has to
make the same of them.  On tags both agree; what else is kept may be misshapen.

* `markupAt?_more`: markup that is read is read in the same way if more text follows;
* `kept` lists the markup that escaping keeps in a text, and `mem_keptFrom_iff` says where it
  stands;
* `readsWhole_tag`, `readsWhole_endTag`: what is read of it;
* `exists_kept_of_parseChars?_eq_none`: a text that is not read holds a comment, a declaration or
  a processing instruction that is not read by itself.
-/

namespace PagePress

namespace Markup

/-! ## Markup with more text behind it -/

theorem tagContentLength?_more (more : List Char) :
    ∀ {q : Option Char} {cs : List Char} {n : Nat}, tagContentLength? q cs = some n →
      n < cs.length ∧ tagContentLength? q (cs ++ more) = some n := by
  intro q cs
  induction cs generalizing q with
  | nil =>
      intro n h
      cases h
  | cons c cs ih =>
      intro n h
      cases q with
      | some q =>
          rw [tagContentLength?] at h
          obtain ⟨m, hm, rfl⟩ := Option.map_eq_some_iff.1 h
          rcases ih hm with ⟨hlt, hmore⟩
          refine ⟨Nat.succ_lt_succ hlt, ?_⟩
          rw [List.cons_append, tagContentLength?, hmore]
          rfl
      | none =>
          rw [tagContentLength?] at h
          split at h
          · rename_i hclose
            cases h
            refine ⟨Nat.succ_pos _, ?_⟩
            rw [List.cons_append, tagContentLength?, if_pos hclose]
          · rename_i hclose
            obtain ⟨m, hm, rfl⟩ := Option.map_eq_some_iff.1 h
            rcases ih hm with ⟨hlt, hmore⟩
            refine ⟨Nat.succ_lt_succ hlt, ?_⟩
            rw [List.cons_append, tagContentLength?, if_neg hclose, hmore]
            rfl

/-- The number of characters of an internal subset behind the next one that are passed over with
it: a quoted value, a comment, an instruction, or none. -/
def subsetSkip? (c : Char) (rest : List Char) : Option Nat :=
  if c = '"' || c = '\'' then (Text.find? [c] rest).map (· + 1)
  else if ['<', '!', '-', '-'].isPrefixOf (c :: rest) then
    (Text.find? ['-', '-', '>'] (rest.drop 3)).map (· + 6)
  else if ['<', '?'].isPrefixOf (c :: rest) then (Text.find? ['?', '>'] rest).map (· + 2)
  else some 0

theorem doctypeLength?_inside (fuel : Nat) (c : Char) (rest : List Char) :
    doctypeLength? (fuel + 1) true (c :: rest) =
      if c = ']' then (doctypeLength? fuel false rest).map (· + 1)
      else (subsetSkip? c rest).bind fun n =>
        (doctypeLength? fuel true (rest.drop n)).map (· + n + 1) := by
  rw [doctypeLength?, if_pos rfl, subsetSkip?]
  repeat' split
  all_goals rfl

theorem doctypeLength?_outside (fuel : Nat) (c : Char) (rest : List Char) :
    doctypeLength? (fuel + 1) false (c :: rest) =
      if c = '>' then some 0
      else (doctypeLength? fuel (c = '[') rest).map (· + 1) := by
  rw [doctypeLength?, if_neg Bool.false_ne_true]
  by_cases hopen : c = '[' <;> simp [hopen]

theorem subsetSkip?_le {c : Char} {rest : List Char} {n : Nat} (h : subsetSkip? c rest = some n) :
    n ≤ rest.length := by
  unfold subsetSkip? at h
  split at h
  · obtain ⟨m, hm, rfl⟩ := Option.map_eq_some_iff.1 h
    exact Text.find?_le hm
  · split at h
    · obtain ⟨m, hm, rfl⟩ := Option.map_eq_some_iff.1 h
      have hle := Text.find?_le hm
      simp at hle
      omega
    · split at h
      · obtain ⟨m, hm, rfl⟩ := Option.map_eq_some_iff.1 h
        exact Text.find?_le hm
      · cases h
        exact Nat.zero_le _

theorem subsetSkip?_more {c : Char} {rest : List Char} {n : Nat} (hclose : ']' ∈ c :: rest)
    (h : subsetSkip? c rest = some n) (more : List Char) :
    subsetSkip? c (rest ++ more) = some n := by
  -- The bracket is no part of a sign, so no sign begins here and ends in what follows.
  have hcomment : ['<', '!', '-', '-'].isPrefixOf (c :: (rest ++ more)) =
      ['<', '!', '-', '-'].isPrefixOf (c :: rest) :=
    Text.isPrefixOf_more_of_mem hclose (by decide) more
  have hinstruction : ['<', '?'].isPrefixOf (c :: (rest ++ more)) =
      ['<', '?'].isPrefixOf (c :: rest) :=
    Text.isPrefixOf_more_of_mem hclose (by decide) more
  unfold subsetSkip? at h ⊢
  rw [hcomment, hinstruction]
  split at h
  · rename_i hquote
    obtain ⟨m, hm, rfl⟩ := Option.map_eq_some_iff.1 h
    rw [if_pos hquote, Text.find?_more more hm]
    rfl
  · rename_i hquote
    rw [if_neg hquote]
    split at h
    · rename_i hprefix
      obtain ⟨m, hm, rfl⟩ := Option.map_eq_some_iff.1 h
      have hlength : 3 ≤ rest.length := by
        have hle := (List.isPrefixOf_iff_prefix.1 hprefix).length_le
        simp at hle
        omega
      rw [if_pos hprefix, List.drop_append_of_le_length hlength, Text.find?_more more hm]
      rfl
    · rename_i hprefix
      rw [if_neg hprefix]
      split at h
      · rename_i hprefix'
        obtain ⟨m, hm, rfl⟩ := Option.map_eq_some_iff.1 h
        rw [if_pos hprefix', Text.find?_more more hm]
        rfl
      · rename_i hprefix'
        rw [if_neg hprefix']
        exact h

theorem mem_of_doctypeLength?_inside :
    ∀ {fuel : Nat} {cs : List Char} {n : Nat}, doctypeLength? fuel true cs = some n → ']' ∈ cs := by
  intro fuel
  induction fuel with
  | zero =>
      intro cs n h
      cases h
  | succ fuel ih =>
      intro cs n h
      cases cs with
      | nil => cases h
      | cons c rest =>
          rw [doctypeLength?_inside] at h
          split at h
          · rename_i hclose
            rw [hclose]
            exact List.mem_cons_self ..
          · obtain ⟨m, -, h⟩ := Option.bind_eq_some_iff.1 h
            obtain ⟨k, hk, -⟩ := Option.map_eq_some_iff.1 h
            exact List.mem_cons_of_mem _ (List.mem_of_mem_drop (ih hk))

theorem doctypeLength?_more (more : List Char) :
    ∀ {fuel fuel' : Nat} {inside : Bool} {cs : List Char} {n : Nat}, fuel ≤ fuel' →
      doctypeLength? fuel inside cs = some n →
        n < cs.length ∧ doctypeLength? fuel' inside (cs ++ more) = some n := by
  intro fuel
  induction fuel with
  | zero =>
      intro fuel' inside cs n _ h
      cases h
  | succ fuel ih =>
      intro fuel' inside cs n hfuel h
      obtain ⟨fuel', rfl⟩ : ∃ f, fuel' = f + 1 := ⟨fuel' - 1, by omega⟩
      have hfuel : fuel ≤ fuel' := Nat.le_of_succ_le_succ hfuel
      cases cs with
      | nil => cases h
      | cons c rest =>
          cases inside with
          | false =>
              rw [doctypeLength?_outside] at h
              rw [List.cons_append, doctypeLength?_outside]
              split at h
              · rename_i hclose
                cases h
                exact ⟨Nat.succ_pos _, if_pos hclose⟩
              · rename_i hclose
                obtain ⟨m, hm, rfl⟩ := Option.map_eq_some_iff.1 h
                rcases ih hfuel hm with ⟨hlt, hmore⟩
                rw [if_neg hclose, hmore]
                exact ⟨Nat.succ_lt_succ hlt, rfl⟩
          | true =>
              -- The bracket that closes the subset is still to come.
              have hmem : ']' ∈ c :: rest := mem_of_doctypeLength?_inside h
              rw [doctypeLength?_inside] at h
              rw [List.cons_append, doctypeLength?_inside]
              split at h
              · rename_i hclose
                obtain ⟨m, hm, rfl⟩ := Option.map_eq_some_iff.1 h
                rcases ih hfuel hm with ⟨hlt, hmore⟩
                rw [if_pos hclose, hmore]
                exact ⟨Nat.succ_lt_succ hlt, rfl⟩
              · rename_i hclose
                obtain ⟨m, hskip, h⟩ := Option.bind_eq_some_iff.1 h
                obtain ⟨k, hk, rfl⟩ := Option.map_eq_some_iff.1 h
                rcases ih hfuel hk with ⟨hlt, hmore⟩
                have hle := subsetSkip?_le hskip
                rw [if_neg hclose, subsetSkip?_more hmem hskip, Option.bind_some,
                  List.drop_append_of_le_length hle, hmore]
                refine ⟨?_, rfl⟩
                rw [List.length_drop] at hlt
                rw [List.length_cons]
                omega

/-- Of declarations only document types are read, and only with a name. -/
theorem markupAt?_declaration {c : Char} {cs : List Char} (hcomment : c ≠ '-') (hcdata : c ≠ '[') :
    markupAt? ('!' :: c :: cs) =
      if c = 'D' || c = 'd' then
        (doctypeLength? (cs.length + 1) false cs).bind fun n =>
          if Text.startsWithLower "octype".toList cs && !((cs.take n).drop 6).all isTagBlank then
            some (none, n + 3)
          else none
      else none := by
  rw [markupAt?]
  · refine if_congr Iff.rfl ?_ rfl
    cases doctypeLength? (cs.length + 1) false cs with
    | none => rfl
    | some n =>
        cases hnamed : Text.startsWithLower "octype".toList cs with
        | false => rfl
        | true =>
            cases hblank : ((cs.take n).drop 6).all isTagBlank <;>
              simp only [Option.bind_eq_bind, Option.bind_some, hblank, if_true] <;> rfl
  all_goals simp [hcomment, hcdata]

theorem startsWithLower_more {word cs : List Char} (h : Text.startsWithLower word cs = true)
    (more : List Char) : Text.startsWithLower word (cs ++ more) = true := by
  rw [startsWithLower_iff] at h ⊢
  rw [Text.lower, List.map_append]
  exact h.trans (List.prefix_append _ _)

theorem markupAt?_more {cs : List Char} {token? : Option Token} {n : Nat}
    (h : markupAt? cs = some (token?, n)) (more : List Char) :
    markupAt? (cs ++ more) = some (token?, n) := by
  -- Each kind of markup finds its end where it found it before.
  have horiginal := h
  unfold markupAt? at h
  split at h
  · cases h
  · -- A comment.
    split at h
    · obtain ⟨m, hm, h⟩ := Option.bind_eq_some_iff.1 h
      rw [List.cons_append, List.cons_append, List.cons_append, markupAt?,
        Text.find?_more more hm]
      exact h
    · cases h
  · -- A section of character data.
    rename_i rest
    obtain ⟨m, hm, h⟩ := Option.bind_eq_some_iff.1 h
    have hle : m ≤ rest.length := by
      have := Text.find?_le hm
      omega
    have htake : (rest ++ more).take m = rest.take m := List.take_append_of_le_length hle
    rw [← htake] at h
    rw [List.cons_append, List.cons_append, markupAt?, Text.find?_more more hm]
    exact h
  · -- A document type.
    rename_i c rest hcomment hcdata
    have hdash : c ≠ '-' := fun e => hcomment (by rw [e])
    have hbracket : c ≠ '[' := fun e => hcdata (by rw [e])
    clear h
    rw [markupAt?_declaration hdash hbracket] at horiginal
    rw [List.cons_append, List.cons_append, markupAt?_declaration hdash hbracket]
    split at horiginal
    · rename_i hd
      obtain ⟨m, hm, h⟩ := Option.bind_eq_some_iff.1 horiginal
      rcases doctypeLength?_more more
        (Nat.succ_le_succ (List.length_append ▸ Nat.le_add_right ..)) hm with ⟨hlt, hmore⟩
      split at h
      · rename_i hnamed
        rw [Bool.and_eq_true] at hnamed
        rw [if_pos hd, hmore, Option.bind_some, List.take_append_of_le_length hlt.le,
          startsWithLower_more hnamed.1, hnamed.2]
        exact h
      · cases h
    · cases horiginal
  · cases h
  · -- A processing instruction.
    obtain ⟨m, hm, h⟩ := Option.bind_eq_some_iff.1 h
    rw [List.cons_append, markupAt?, ← List.cons_append, Text.find?_more more hm]
    exact h
  · -- An end tag.
    rename_i rest
    obtain ⟨m, hm, h⟩ := Option.bind_eq_some_iff.1 h
    rcases tagContentLength?_more more hm with ⟨hlt, hmore⟩
    have htake : (rest ++ more).take m = rest.take m := List.take_append_of_le_length hlt.le
    rw [← htake] at h
    rw [List.cons_append, markupAt?, hmore]
    exact h
  · -- A start tag.
    rename_i hdeclaration hbang hinstruction hend
    obtain ⟨m, hm, h⟩ := Option.bind_eq_some_iff.1 h
    rcases tagContentLength?_more more hm with ⟨hlt, hmore⟩
    have htake : (cs ++ more).take m = cs.take m := List.take_append_of_le_length hlt.le
    rw [← htake] at h
    cases cs with
    | nil => cases hm
    | cons c cs =>
        have hbang : c ≠ '!' := by
          rintro rfl
          rcases cs with _ | ⟨d, cs⟩
          · exact hbang rfl
          · exact hdeclaration d cs rfl
        have hquestion : c ≠ '?' := fun e => hinstruction cs (by rw [e])
        have hslash : c ≠ '/' := fun e => hend cs (by rw [e])
        rw [List.cons_append, markupAt?_tag hbang hquestion hslash, ← List.cons_append, hmore]
        exact h

/-! ## Kept markup -/

/-- The markup that escaping keeps from a place on, every piece without its `<`. -/
def keptFrom (p : Place) : List Char → List (List Char)
  | [] => []
  | c :: rest =>
    match p.settle (c :: rest) with
    | .markup n opens => keptFrom (.markup (n - 1) opens) rest
    | .raw name => keptFrom (.raw name) rest
    | .text =>
      if c = '<' then
        match markupLength? rest with
        | some n => rest.take n :: keptFrom (.markup n (rawTextName? (rest.take n))) rest
        | none => keptFrom .text rest
      else keptFrom .text rest

/-- The markup that escaping keeps in a text. -/
def kept (cs : List Char) : List (List Char) := keptFrom .text cs

/-- A comment, a declaration or a processing instruction. -/
def IsDeclaration (m : List Char) : Prop := m.head? = some '!' ∨ m.head? = some '?'

/-- Markup that is read up to its end when nothing follows it. -/
def ReadsWhole (m : List Char) : Prop := ∃ token?, markupAt? m = some (token?, m.length)

theorem tagLength?_take {q : Option Char} {cs : List Char} {n : Nat}
    (h : tagLength? q cs = some n) :
    ∃ k, n = k + 1 ∧ k < cs.length ∧ tagContentLength? q (cs.take n) = some k := by
  obtain ⟨content, rest, rfl, rfl, hscan⟩ := exists_of_tagLength? h
  refine ⟨content.length, rfl, by simp, ?_⟩
  rw [List.take_length_add_append, tagContentLength?_append hscan]
  simp [tagContentLength?]

theorem throughClose?_le {cs : List Char} {n : Nat} (h : throughClose? cs = some n) :
    0 < n ∧ n ≤ cs.length := by
  obtain ⟨m, hm, rfl⟩ := Option.map_eq_some_iff.1 h
  exact ⟨Nat.succ_pos m, Text.find?_le hm⟩

/-- A tag that escaping keeps is read up to its end. -/
theorem readsWhole_tag {c : Char} {cs : List Char} {n : Nat} (hc : c.isAlpha = true)
    (h : tagLength? none (c :: cs) = some n) : ReadsWhole ((c :: cs).take n) := by
  obtain ⟨content, rest, hsplit, rfl, hscan⟩ := exists_of_tagLength? h
  obtain ⟨ds, rfl⟩ := exists_cons_of_append_close hsplit (ne_of_isAlpha hc (by decide))
  have hread := markupAt?_startTag hc hscan []
  rw [hsplit, List.take_length_add_append]
  exact ⟨_, by simpa using hread⟩

theorem readsWhole_endTag {cs : List Char} {n : Nat} (h : tagLength? none ('/' :: cs) = some n) :
    ReadsWhole (('/' :: cs).take n) := by
  obtain ⟨content, rest, hsplit, rfl, hscan⟩ := exists_of_tagLength? h
  obtain ⟨ds, rfl⟩ := exists_cons_of_append_close hsplit (by decide)
  have hread := markupAt?_endTag (by simpa [scan] using hscan) []
  rw [hsplit, List.take_length_add_append]
  exact ⟨_, by simpa using hread⟩

/-- Markup that escaping keeps is there in full, and it is a declaration or it is read up to its
end. -/
theorem markupLength?_cases {cs : List Char} {n : Nat} (h : markupLength? cs = some n) :
    n ≤ cs.length ∧ (IsDeclaration (cs.take n) ∨ ReadsWhole (cs.take n)) := by
  have htag : ∀ {c ds}, tagLength? none (c :: ds) = some n → n ≤ (c :: ds).length := by
    intro c ds h
    obtain ⟨k, rfl, hk, -⟩ := tagLength?_take h
    exact hk
  have hsign : ∀ {c : Char} {ds : List Char}, 0 < n → ((c :: ds).take n).head? = some c := by
    intro c ds hn
    obtain ⟨k, rfl⟩ : ∃ k, n = k + 1 := ⟨n - 1, by omega⟩
    rfl
  unfold markupLength? at h
  split at h
  · split at h
    · exact ⟨htag h, .inr (readsWhole_endTag h)⟩
    · cases h
  · obtain ⟨m, hm, rfl⟩ := Option.map_eq_some_iff.1 h
    exact ⟨Text.find?_le hm, .inl (.inl (hsign (Nat.succ_pos _)))⟩
  · rcases throughClose?_le h with ⟨hpos, hle⟩
    exact ⟨hle, .inl (.inl (hsign hpos))⟩
  · rcases throughClose?_le h with ⟨hpos, hle⟩
    exact ⟨hle, .inl (.inr (hsign hpos))⟩
  · split at h
    · rename_i hc
      exact ⟨htag h, .inr (readsWhole_tag hc h)⟩
    · cases h
  · cases h

/-! ## The places of kept markup -/

/-- The place behind a character, when more text follows it. -/
def Place.next (p : Place) (c : Char) (rest : List Char) : Place :=
  match p.settle (c :: rest) with
  | .markup n opens => .markup (n - 1) opens
  | .raw name => .raw name
  | .text =>
    if c = '<' then
      match markupLength? rest with
      | some n => .markup n (rawTextName? (rest.take n))
      | none => .text
    else .text

/-- What becomes of a character at a place. -/
def Place.escapeChar (p : Place) (c : Char) (rest : List Char) : List Char :=
  match p.settle (c :: rest) with
  | .markup _ _ => [c]
  | .raw name => escapeRawChar name c
  | .text => if c = '<' ∧ markupLength? rest = none then "&lt;".toList else [c]

/-- Escaping goes over a text character by character. -/
theorem escapeFrom_cons (p : Place) (c : Char) (rest : List Char) :
    escapeFrom p (c :: rest) = p.escapeChar c rest ++ escapeFrom (p.next c rest) rest := by
  rw [escapeFrom, Place.escapeChar, Place.next]
  cases p.settle (c :: rest) with
  | markup n opens => rfl
  | raw name =>
      dsimp only
  | text =>
      dsimp only
      by_cases hc : c = '<'
      · cases hlength : markupLength? rest <;> simp [hc]
      · simp [hc]

/-- The place behind the first of two parts of a text. -/
def Place.after (p : Place) : List Char → List Char → Place
  | [], _ => p
  | c :: xs, ys => (p.next c (xs ++ ys)).after xs ys

/-- Markup that escaping keeps, without its `<`, between two parts of a text that it goes over from
a place on. -/
structure Kept (p : Place) (before markup rest : List Char) : Prop where
  place : (p.after before ('<' :: (markup ++ rest))).settle ('<' :: (markup ++ rest)) = .text
  length : markupLength? (markup ++ rest) = some markup.length

theorem mem_keptFrom_cons {p : Place} {c : Char} {rest m : List Char} :
    m ∈ keptFrom p (c :: rest) ↔
      (c = '<' ∧ p.settle (c :: rest) = .text ∧ ∃ n, markupLength? rest = some n ∧ m = rest.take n) ∨
        m ∈ keptFrom (p.next c rest) rest := by
  rw [keptFrom, Place.next]
  cases p.settle (c :: rest) with
  | markup n opens => simp
  | raw name => simp
  | text =>
      by_cases hlt : c = '<'
      · cases hlength : markupLength? rest <;> simp [hlt]
      · simp [hlt]

/-- The markup that escaping keeps stands between two parts of the text. -/
theorem mem_keptFrom_iff {m : List Char} :
    ∀ {cs : List Char} {p : Place}, m ∈ keptFrom p cs ↔
      ∃ before rest, cs = before ++ '<' :: (m ++ rest) ∧ Kept p before m rest := by
  intro cs
  induction cs with
  | nil => simp [keptFrom]
  | cons c cs ih =>
      intro p
      rw [mem_keptFrom_cons, ih]
      constructor
      · rintro (⟨rfl, hplace, n, hlength, rfl⟩ | ⟨before, rest, rfl, hkept⟩)
        · have hle : n ≤ cs.length := (markupLength?_cases hlength).1
          refine ⟨[], cs.drop n, by simp, ⟨?_, ?_⟩⟩
          · rwa [List.take_append_drop]
          · rwa [List.take_append_drop, List.length_take_of_le hle]
        · exact ⟨c :: before, rest, rfl, hkept.place, hkept.length⟩
      · rintro ⟨before, rest, heq, hkept⟩
        cases before with
        | nil =>
            cases heq
            exact .inl ⟨rfl, hkept.place, _, hkept.length, by simp⟩
        | cons d before =>
            cases heq
            exact .inr ⟨before, rest, rfl, hkept.place, hkept.length⟩

theorem keptFrom_cases {m cs : List Char} {p : Place} (h : m ∈ keptFrom p cs) :
    IsDeclaration m ∨ ReadsWhole m := by
  obtain ⟨before, rest, rfl, hkept⟩ := mem_keptFrom_iff.1 h
  have hcases := (markupLength?_cases hkept.length).2
  rwa [List.take_left] at hcases

/-! ## Reading what escaping keeps -/

/-- What a reference takes up holds no `<`. -/
theorem lt_not_mem_referenceAt (cs : List Char) : '<' ∉ cs.take (referenceAt cs).2 := by
  let body := cs.takeWhile fun c => c != ';' && c != '&' && c != '<'
  have hbody : '<' ∉ body := by
    intro h
    have hlt := List.all_eq_true.1 List.all_takeWhile _ h
    revert hlt
    decide
  obtain ⟨tail, htail⟩ : body <+: cs := List.takeWhile_prefix _
  have hdrop : cs.drop body.length = tail := by rw [← htail, List.drop_left]
  unfold referenceAt
  dsimp only
  split
  · rename_i rest hsemi
    have htail' : tail = ';' :: rest := hdrop.symm.trans hsemi
    have htake : cs.take (body.length + 1) = body ++ [';'] := by
      rw [← htail, htail', List.take_length_add_append]
      rfl
    rw [htake, List.mem_append, not_or]
    exact ⟨hbody, by decide⟩
  · simp

/-- Whether reading succeeds does not depend on characters that start no markup, read as they are
or as parts of a reference. -/
theorem isSome_readFrom?_skip :
    ∀ {cs : List Char} {n : Nat}, '<' ∉ cs.take n →
      (Token.readFrom? n cs).isSome = (Token.readFrom? 0 cs).isSome := by
  intro cs
  induction cs with
  | nil =>
      intro n _
      rfl
  | cons c rest ih =>
      intro n h
      cases n with
      | zero => rfl
      | succ n =>
          rw [List.take_succ_cons, List.mem_cons, not_or] at h
          rcases h with ⟨hc, hrest⟩
          rw [Token.readFrom?, ih hrest, Token.readFrom?]
          simp only [Ne.symm hc, if_false]
          split
          · simp [ih (lt_not_mem_referenceAt rest)]
          · simp

theorem isSome_readFrom?_cons {c : Char} (hc : c ≠ '<') (rest : List Char) :
    (Token.readFrom? 0 (c :: rest)).isSome = (Token.readFrom? 0 rest).isSome :=
  (isSome_readFrom?_skip (n := 1) (by simpa using Ne.symm hc)).symm

theorem isSome_readFrom?_append {xs : List Char} (h : '<' ∉ xs) (rest : List Char) :
    (Token.readFrom? 0 (xs ++ rest)).isSome = (Token.readFrom? 0 rest).isSome := by
  induction xs with
  | nil => rfl
  | cons c xs ih =>
      rw [List.mem_cons, not_or] at h
      rw [List.cons_append, isSome_readFrom?_cons (Ne.symm h.1), ih h.2]

/-- The number of characters that are still to be passed over at a place. -/
def Place.left : Place → Nat
  | .markup n _ => n
  | _ => 0

theorem lt_not_mem_escapeRawChar (name : String) (c : Char) : '<' ∉ escapeRawChar name c := by
  unfold escapeRawChar
  split
  · decide
  · rename_i hc
    split
    · decide
    · simpa using Ne.symm hc

/-- A place settles to markup only in markup with characters left. -/
theorem Place.settle_cases (p : Place) (cs : List Char) :
    (∃ n opens, p = .markup (n + 1) opens ∧ p.settle cs = .markup (n + 1) opens) ∨
      p.left = 0 ∧ (p.settle cs = .text ∨ ∃ name, p.settle cs = .raw name) := by
  have hraw : ∀ name, (Place.raw name).settle cs = .text ∨
      ∃ name', (Place.raw name).settle cs = .raw name' := by
    intro name
    by_cases hend : endsRawText name cs = true
    · exact .inl (by simp [Place.settle, hend])
    · exact .inr ⟨name, by simp [Place.settle, hend]⟩
  rcases p with _ | ⟨_ | n, _ | name⟩ | name
  · exact .inr ⟨rfl, .inl rfl⟩
  · exact .inr ⟨rfl, .inl rfl⟩
  · exact .inr ⟨rfl, hraw name⟩
  · exact .inl ⟨n, none, rfl, rfl⟩
  · exact .inl ⟨n, some name, rfl, rfl⟩
  · exact .inr ⟨rfl, hraw name⟩

/-- If all markup that escaping keeps is read up to its end, the whole text is read. -/
theorem isSome_readFrom?_escapeFrom :
    ∀ {cs : List Char} {p : Place}, (∀ m ∈ keptFrom p cs, ReadsWhole m) →
      (Token.readFrom? p.left (escapeFrom p cs)).isSome = true := by
  -- Reader and escaping walk in step: `left` is what both still pass over at a place.
  intro cs
  induction cs with
  | nil =>
      intro p _
      rfl
  | cons c rest ih =>
      intro p h
      rw [keptFrom] at h
      rw [escapeFrom]
      rcases p.settle_cases (c :: rest) with
        ⟨n, opens, rfl, hplace⟩ | ⟨hleft, hplace | ⟨name, hplace⟩⟩
      · -- The rest of the markup is passed over.
        rw [hplace] at h ⊢
        exact ih h
      · rw [hplace] at h ⊢
        rw [hleft]
        by_cases hc : c = '<'
        · simp only [hc, if_true] at h ⊢
          cases hlength : markupLength? rest with
          | none =>
              simp only [hlength] at h ⊢
              rw [isSome_readFrom?_append (by decide)]
              exact ih h
          | some n =>
              simp only [hlength] at h ⊢
              obtain ⟨token?, hread⟩ := h _ (List.mem_cons_self ..)
              have hle : n ≤ rest.length := (markupLength?_cases hlength).1
              have htail := ih fun m hm => h m (List.mem_cons_of_mem _ hm)
              -- The markup is copied, so the reader finds it in front of whatever follows.
              have hcopy := escapeFrom_markup (rawTextName? (rest.take n)) (rest.take n)
                (rest.drop n)
              rw [List.length_take_of_le hle, List.take_append_drop] at hcopy
              have hmore := markupAt?_more hread
                (escapeFrom (.markup 0 (rawTextName? (rest.take n))) (rest.drop n))
              rw [← hcopy, List.length_take_of_le hle] at hmore
              rw [Token.readFrom?, if_pos rfl, hmore]
              rw [Option.isSome_map]
              exact htail
        · simp only [hc, if_false] at h ⊢
          rw [isSome_readFrom?_cons hc]
          exact ih h
      · rw [hplace] at h ⊢
        rw [hleft]
        dsimp only
        rw [isSome_readFrom?_append (lt_not_mem_escapeRawChar name c)]
        exact ih h

theorem isSome_ofChars? (cs : List Char) :
    (Token.ofChars? cs).isSome = (Token.readFrom? 0 cs).isSome := by
  cases cs with
  | nil => rfl
  | cons c cs =>
      by_cases hmark : c = byteOrderMark
      · -- The mark would be read as a character.
        have hlt : c ≠ '<' := by
          rw [hmark]
          decide
        rw [Token.ofChars?, if_pos hmark, isSome_readFrom?_cons hlt]
      · rw [Token.ofChars?, if_neg hmark]

/-- A text that is not read holds a comment, a declaration or a processing instruction that
escaping keeps and that is not read up to its end by itself. -/
theorem exists_kept_of_parseChars?_eq_none {cs : List Char} (h : parseChars? cs = none) :
    ∃ m ∈ kept cs, IsDeclaration m ∧ ¬ ReadsWhole m := by
  by_cases hall : ∀ m ∈ kept cs, ReadsWhole m
  · have hread : (Token.ofChars? (escapeStray cs)).isSome = true := by
      rw [isSome_ofChars?]
      exact isSome_readFrom?_escapeFrom hall
    rw [parseChars?, Option.map_eq_none_iff] at h
    rw [h] at hread
    cases hread
  · simp only [not_forall] at hall
    obtain ⟨m, hm, hunread⟩ := hall
    rcases keptFrom_cases hm with hdeclaration | hread
    · exact ⟨m, hm, hdeclaration, hunread⟩
    · exact absurd hread hunread

end Markup

end PagePress
