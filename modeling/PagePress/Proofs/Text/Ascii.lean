import PagePress.Text.Ascii

/-!
# ASCII — letters by their codes, and words in a text

* `isUpper_iff` and `isLower_iff` give the codes of capitals and of small letters;
* `toLower_of_isUpper_eq_false` and `lower_eq_self`: a text without capitals is lowered to itself;
* `takeWhile_append_stop`: characters of a kind end where one of another kind stands;
* `takeWhile_isAlnum_lower`: what a text starts with is the same in any letter case;
* `exists_of_find?` and `find?_singleton`: where a word and where a character is found;
* `find?_more`: a word that is found is found if more text follows;
* `find?_append_self`: a word that ends a text is found there if it lies nowhere before.
-/

namespace PagePress

namespace Text

/-! ## Classes -/

theorem isUpper_iff {c : Char} : c.isUpper = true ↔ 65 ≤ c.toNat ∧ c.toNat ≤ 90 := by
  have h : c.isUpper = decide ('A'.val ≤ c.val ∧ c.val ≤ 'Z'.val) := rfl
  rw [h, decide_eq_true_iff, UInt32.le_iff_toNat_le, UInt32.le_iff_toNat_le]
  exact Iff.rfl

theorem isLower_iff {c : Char} : c.isLower = true ↔ 97 ≤ c.toNat ∧ c.toNat ≤ 122 := by
  have h : c.isLower = (decide ('a'.val ≤ c.val) && decide (c.val ≤ 'z'.val)) := rfl
  rw [h, Bool.and_eq_true, decide_eq_true_iff, decide_eq_true_iff, UInt32.le_iff_toNat_le,
    UInt32.le_iff_toNat_le]
  exact Iff.rfl

theorem isAlpha_iff {c : Char} : c.isAlpha = true ↔ c.isUpper = true ∨ c.isLower = true := by
  rw [← Bool.or_eq_true]
  exact Iff.rfl

theorem isAlnum_iff {c : Char} :
    isAlnum c = true ↔ c.isUpper = true ∨ c.isLower = true ∨ c.isDigit = true := by
  rw [isAlnum, Bool.or_eq_true, isAlpha_iff, or_assoc]

/-- Characters of a kind end where one of another kind stands. -/
theorem takeWhile_append_stop {p : Char → Bool} {xs ys : List Char} (hxs : ∀ c ∈ xs, p c = true)
    (hys : ∀ c ∈ ys.head?, p c = false) :
    (xs ++ ys).takeWhile p = xs ∧ (xs ++ ys).dropWhile p = ys := by
  rw [List.takeWhile_append_of_pos hxs, List.dropWhile_append_of_pos hxs]
  cases ys with
  | nil => simp
  | cons c cs => simp [hys c rfl]

/-! ## Letter case -/

theorem toLower_of_isUpper_eq_false {c : Char} (h : c.isUpper = false) : c.toLower = c := by
  unfold Char.toLower
  rw [dif_neg]
  intro hrange
  have hupper : c.isUpper = true := decide_eq_true hrange
  rw [h] at hupper
  cases hupper

theorem lower_eq_self {cs : List Char} (h : ∀ c ∈ cs, c.isUpper = false) : lower cs = cs := by
  unfold lower
  conv => rhs; rw [← List.map_id cs]
  exact List.map_congr_left fun c hc => toLower_of_isUpper_eq_false (h c hc)

theorem toNat_toLower {c : Char} (h : c.isUpper = true) : c.toLower.toNat = c.toNat + 32 := by
  have hcode : 65 ≤ c.toNat ∧ c.toNat ≤ 90 := isUpper_iff.1 h
  unfold Char.toLower
  rw [dif_pos (of_decide_eq_true h)]
  have hval : (c.val + 32).toNat = (c.toNat + 32) % 4294967296 := UInt32.toNat_add ..
  rw [Nat.mod_eq_of_lt (by omega)] at hval
  exact hval

/-- Whether a character is a letter or a digit does not depend on its case. -/
theorem isAlnum_toLower (c : Char) : isAlnum c.toLower = isAlnum c := by
  by_cases h : c.isUpper = true
  · have hcode : 65 ≤ c.toNat ∧ c.toNat ≤ 90 := isUpper_iff.1 h
    have hlower : c.toLower.isLower = true := by
      rw [isLower_iff, toNat_toLower h]
      omega
    rw [isAlnum_iff.2 (.inr (.inl hlower)), isAlnum_iff.2 (.inl h)]
  · rw [toLower_of_isUpper_eq_false (by simpa using h)]

theorem takeWhile_isAlnum_lower (cs : List Char) :
    (lower cs).takeWhile isAlnum = lower (cs.takeWhile isAlnum) := by
  have hcase : isAlnum ∘ Char.toLower = isAlnum := funext isAlnum_toLower
  rw [lower, List.takeWhile_map, hcase]
  rfl

/-! ## Words -/

theorem find?_le {word : List Char} :
    ∀ {cs : List Char} {n : Nat}, find? word cs = some n → n + word.length ≤ cs.length := by
  intro cs
  induction cs with
  | nil =>
      intro n h
      have hword : word = [] := by
        cases word with
        | nil => rfl
        | cons c word => simp [find?] at h
      simp [find?, hword] at h ⊢
      omega
  | cons c cs ih =>
      intro n h
      rw [find?] at h
      split at h
      · rename_i hprefix
        cases h
        simpa using (List.isPrefixOf_iff_prefix.1 hprefix).length_le
      · obtain ⟨m, hm, rfl⟩ := Option.map_eq_some_iff.1 h
        have hle := ih hm
        rw [List.length_cons]
        omega

/-- A word that is found stands behind as many characters as are counted. -/
theorem exists_of_find? {word : List Char} :
    ∀ {cs : List Char} {n : Nat}, find? word cs = some n →
      ∃ xs ys, cs = xs ++ word ++ ys ∧ xs.length = n := by
  intro cs
  induction cs with
  | nil =>
      intro n h
      have hle := find?_le h
      rw [List.length_nil] at hle
      obtain rfl : word = [] := List.length_eq_zero_iff.1 (by omega)
      exact ⟨[], [], rfl, by simp only [List.length_nil]; omega⟩
  | cons c cs ih =>
      intro n h
      rw [find?] at h
      split at h
      · rename_i hprefix
        cases h
        obtain ⟨ys, hys⟩ := List.isPrefixOf_iff_prefix.1 hprefix
        exact ⟨[], ys, hys.symm, rfl⟩
      · obtain ⟨m, hm, rfl⟩ := Option.map_eq_some_iff.1 h
        obtain ⟨xs, ys, rfl, hlength⟩ := ih hm
        exact ⟨c :: xs, ys, rfl, congrArg (· + 1) hlength⟩

/-- A single character is found in front of the first of its kind, if there is one. -/
theorem find?_singleton (c : Char) (cs : List Char) :
    (c ∉ cs ∧ find? [c] cs = none) ∨
      ∃ xs ys, cs = xs ++ c :: ys ∧ c ∉ xs ∧ find? [c] cs = some xs.length := by
  induction cs with
  | nil => exact .inl ⟨List.not_mem_nil, rfl⟩
  | cons d cs ih =>
      by_cases hd : c = d
      · subst hd
        exact .inr ⟨[], cs, rfl, List.not_mem_nil, by simp [find?]⟩
      · have hfind : find? [c] (d :: cs) = (find? [c] cs).map (· + 1) := by
          rw [find?, if_neg (by simpa using hd)]
        rcases ih with ⟨hmem, hnone⟩ | ⟨xs, ys, rfl, hxs, hsome⟩
        · exact .inl ⟨by simp [hd, hmem], by rw [hfind, hnone]; rfl⟩
        · exact .inr ⟨d :: xs, ys, rfl, by simp [hd, hxs], by rw [hfind, hsome]; rfl⟩

theorem isPrefixOf_more {word cs : List Char} (h : word.length ≤ cs.length) (more : List Char) :
    word.isPrefixOf (cs ++ more) = word.isPrefixOf cs := by
  rw [Bool.eq_iff_iff, List.isPrefixOf_iff_prefix, List.isPrefixOf_iff_prefix]
  constructor
  · intro hprefix
    exact List.prefix_of_prefix_length_le hprefix (List.prefix_append cs more) h
  · intro hprefix
    exact hprefix.trans (List.prefix_append cs more)

/-- A word does not reach behind a character that it lacks. -/
theorem isPrefixOf_more_of_mem {word cs : List Char} {d : Char} (hd : d ∈ cs) (hword : d ∉ word)
    (more : List Char) : word.isPrefixOf (cs ++ more) = word.isPrefixOf cs := by
  by_cases hle : word.length ≤ cs.length
  · exact isPrefixOf_more hle more
  · have hnot : ∀ {ds : List Char}, cs <+: ds → ¬ word <+: ds := by
      intro ds hcs hprefix
      have hinside : cs <+: word := List.prefix_of_prefix_length_le hcs hprefix (by omega)
      exact hword (hinside.subset hd)
    rw [Bool.eq_iff_iff, List.isPrefixOf_iff_prefix, List.isPrefixOf_iff_prefix]
    exact iff_of_false (hnot (List.prefix_append cs more)) (hnot List.prefix_rfl)

/-- A word that is found is found at the same place if more text follows. -/
theorem find?_more {word : List Char} (more : List Char) :
    ∀ {cs : List Char} {n : Nat}, find? word cs = some n → find? word (cs ++ more) = some n := by
  intro cs
  induction cs with
  | nil =>
      intro n h
      have hle : n + word.length ≤ 0 := find?_le h
      have hword : word = [] := List.length_eq_zero_iff.1 (by omega)
      subst hword
      cases more with
      | nil => exact h
      | cons c more => simpa [find?] using h
  | cons c cs ih =>
      intro n h
      -- The word fits in the text that is there, so that more text makes no earlier place.
      have hfits : word.length ≤ (c :: cs).length := by
        have hle := find?_le h
        omega
      have hmore := isPrefixOf_more hfits more
      rw [List.cons_append] at hmore ⊢
      rw [find?, hmore]
      rw [find?] at h
      split at h
      · rename_i hprefix
        rw [if_pos hprefix]
        exact h
      · rename_i hprefix
        obtain ⟨m, hm, rfl⟩ := Option.map_eq_some_iff.1 h
        rw [if_neg hprefix, ih hm]
        rfl

/-- A word lies behind characters that its first character is none of. -/
theorem infix_of_append {c : Char} {word xs ys : List Char} (hc : c ∉ xs)
    (h : c :: word <:+: xs ++ ys) : c :: word <:+: ys := by
  induction xs with
  | nil => exact h
  | cons d xs ih =>
      rw [List.mem_cons, not_or] at hc
      rcases List.infix_cons_iff.1 h with hprefix | hinfix
      · exact absurd (List.cons_prefix_cons.1 hprefix).1 hc.1
      · exact ih hc.2 hinfix

/-- A word lies in front of characters that its last character is none of. -/
theorem infix_of_append_concat {c : Char} {word xs ys : List Char} (hc : c ∉ ys)
    (h : word ++ [c] <:+: xs ++ ys) : word ++ [c] <:+: xs := by
  rw [← List.reverse_infix, List.reverse_append, List.reverse_append] at h
  rw [← List.reverse_infix, List.reverse_append]
  exact infix_of_append (by simpa using hc) h

/-- A word that ends a text is found there if it lies nowhere before. -/
theorem find?_append_self {word : List Char} (hword : word ≠ []) :
    ∀ {cs : List Char}, ¬ word <:+: cs ++ word.dropLast →
      find? word (cs ++ word) = some cs.length := by
  intro cs
  induction cs with
  | nil =>
      intro _
      obtain ⟨c, rest, rfl⟩ := List.exists_cons_of_ne_nil hword
      rw [List.nil_append, find?, if_pos (List.isPrefixOf_iff_prefix.2 List.prefix_rfl)]
      rfl
  | cons c cs ih =>
      intro h
      have hnot : ¬ word <+: c :: (cs ++ word) := by
        intro hprefix
        -- A word at the start has no need of the last character.
        have hlength : word.length ≤ (c :: cs ++ word.dropLast).length := by
          simp
          omega
        have hbefore : c :: cs ++ word.dropLast <+: c :: (cs ++ word) :=
          (List.prefix_append_right_inj (c :: cs)).2 (List.dropLast_prefix word)
        exact h (List.prefix_of_prefix_length_le hprefix hbefore hlength).isInfix
      have hrest : ¬ word <:+: cs ++ word.dropLast :=
        fun hinfix => h (List.infix_cons hinfix)
      rw [List.cons_append, find?, if_neg (by simpa using hnot), ih hrest]
      rfl

end Text

end PagePress
