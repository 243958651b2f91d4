import PagePress.Proofs.Text.Ascii

/-!
# Encoding — the bytes of a text, and offsets in them

An offset counts the bytes in front of a place.  Not every offset lies between two characters, and
only where it does a text can be cut.

* `encode` gives the bytes of a text, and `leads_encode` says what its first byte tells of its first
  character;
* `splitBytes?` cuts a text at an offset, and `between?` takes out what lies between two of them;
* `isValid_iff`: which offsets these are;
* `offsetOf?` and `offsetWhere?` search a text for a word and for a character of a kind.
-/

namespace PagePress

namespace Text

/-! ## Bytes -/

/-- The bytes of a text. -/
def encode (cs : List Char) : List UInt8 := cs.flatMap String.utf8EncodeChar

theorem encode_cons (c : Char) (cs : List Char) :
    encode (c :: cs) = String.utf8EncodeChar c ++ encode cs :=
  List.flatMap_cons

@[simp]
theorem encode_append (xs ys : List Char) : encode (xs ++ ys) = encode xs ++ encode ys :=
  List.flatMap_append

theorem length_encode_cons (c : Char) (cs : List Char) :
    (encode (c :: cs)).length = c.utf8Size + (encode cs).length := by
  rw [encode_cons, List.length_append, String.length_utf8EncodeChar]

theorem length_encode_append (xs ys : List Char) :
    (encode (xs ++ ys)).length = (encode xs).length + (encode ys).length := by
  rw [encode_append, List.length_append]

theorem length_encode_pos {cs : List Char} (h : cs ≠ []) : 0 < (encode cs).length := by
  obtain ⟨c, cs, rfl⟩ := List.exists_cons_of_ne_nil h
  have hpos := c.utf8Size_pos
  rw [length_encode_cons]
  omega

theorem length_encode_lt_append (xs : List Char) {ys : List Char} (h : ys ≠ []) :
    (encode xs).length < (encode (xs ++ ys)).length := by
  have hpos := length_encode_pos h
  rw [length_encode_append]
  omega

theorem length_encode_toList (s : String) : (encode s.toList).length = s.utf8ByteSize := by
  have hbytes : s.toByteArray = (encode s.toList).toByteArray := by
    conv => lhs; rw [← String.ofList_toList (s := s), String.toByteArray_ofList]
    rfl
  rw [String.utf8ByteSize, hbytes]
  simp

/-! ### ASCII -/

theorem utf8Size_eq_one_iff {c : Char} : c.utf8Size = 1 ↔ c.toNat < 128 := by
  rw [Char.utf8Size_eq_one_iff, UInt32.le_iff_toNat_le]
  exact Nat.lt_succ_iff.symm

/-- A character of ASCII takes up one byte, its code. -/
theorem utf8EncodeChar_of_lt {c : Char} (h : c.toNat < 128) :
    String.utf8EncodeChar c = [c.toUInt8] :=
  String.utf8EncodeChar_eq_singleton (utf8Size_eq_one_iff.2 h)

theorem toNat_toUInt8 {c : Char} (h : c.toNat < 128) : c.toUInt8.toNat = c.toNat := by
  have hmod : c.toUInt8.toNat = c.toNat % 256 := UInt32.toNat_toUInt8 c.val
  rw [hmod, Nat.mod_eq_of_lt (by omega)]

/-- The bytes of any other character are none of ASCII. -/
theorem le_of_mem_utf8EncodeChar {c : Char} (h : 128 ≤ c.toNat) :
    ∀ b ∈ String.utf8EncodeChar c, 128 ≤ b.toNat := by
  have hlt : ¬ c.val.toNat ≤ 127 := Nat.not_le_of_lt h
  intro b hb
  simp only [String.utf8EncodeChar, hlt, if_false] at hb
  split at hb
  · simp only [List.mem_cons, List.not_mem_nil, or_false] at hb
    rcases hb with rfl | rfl <;> rw [UInt8.toNat_ofNat'] <;> omega
  · split at hb
    · simp only [List.mem_cons, List.not_mem_nil, or_false] at hb
      rcases hb with rfl | rfl | rfl <;> rw [UInt8.toNat_ofNat'] <;> omega
    · simp only [List.mem_cons, List.not_mem_nil, or_false] at hb
      rcases hb with rfl | rfl | rfl | rfl <;> rw [UInt8.toNat_ofNat'] <;> omega

/-- A byte is the code of a character of ASCII, or neither of both is one of ASCII. -/
def Leads (b : UInt8) (c : Char) : Prop := b.toNat = c.toNat ∨ 128 ≤ b.toNat ∧ 128 ≤ c.toNat

/-- The first byte of a text tells its first character as far as this is one of ASCII. -/
theorem leads_encode (c : Char) (cs : List Char) :
    ∃ b, (encode (c :: cs)).head? = some b ∧ Leads b c := by
  rw [encode_cons]
  by_cases h : c.toNat < 128
  · rw [utf8EncodeChar_of_lt h]
    exact ⟨c.toUInt8, rfl, .inl (toNat_toUInt8 h)⟩
  · have hle : 128 ≤ c.toNat := Nat.le_of_not_lt h
    obtain ⟨b, bs, hbs⟩ := List.exists_cons_of_ne_nil (String.utf8EncodeChar_ne_nil (c := c))
    refine ⟨b, by rw [hbs]; rfl, .inr ⟨le_of_mem_utf8EncodeChar hle b ?_, hle⟩⟩
    rw [hbs]
    exact List.mem_cons_self

theorem Leads.eq_iff {b : UInt8} {c : Char} (h : Leads b c) {d : Char} (hd : d.toNat < 128) :
    b = d.toUInt8 ↔ c = d := by
  rw [← UInt8.toNat_inj, toNat_toUInt8 hd, ← Char.toNat_inj]
  rcases h with h | ⟨hb, hc⟩ <;> omega

/-- Lowering the letters of ASCII moves no place. -/
theorem length_encode_lower (cs : List Char) : (encode (lower cs)).length = (encode cs).length := by
  induction cs with
  | nil => rfl
  | cons c cs ih =>
      have hsize : c.toLower.utf8Size = c.utf8Size := by
        by_cases h : c.isUpper = true
        · have hcode : 65 ≤ c.toNat ∧ c.toNat ≤ 90 := isUpper_iff.1 h
          have hlower := toNat_toLower h
          rw [utf8Size_eq_one_iff.2 (by omega), utf8Size_eq_one_iff.2 (by omega)]
        · rw [toLower_of_isUpper_eq_false (by simpa using h)]
      have hcons : lower (c :: cs) = c.toLower :: lower cs := rfl
      rw [hcons, length_encode_cons, length_encode_cons, hsize, ih]

/-! ## Cutting -/

/-- The characters that take up so many bytes at the front of a text, and those behind them; none if
the bytes end inside a character or are more than there are. -/
def splitBytes? : Nat → List Char → Option (List Char × List Char)
  | 0, cs => some ([], cs)
  | _ + 1, [] => none
  | n + 1, c :: cs =>
    if c.utf8Size ≤ n + 1 then
      (splitBytes? (n + 1 - c.utf8Size) cs).map fun parts => (c :: parts.1, parts.2)
    else none

/-- What lies between two offsets; none if they are not in order or if one of them is no place
between two characters. -/
def between? (cs : List Char) (start stop : Nat) : Option (List Char) :=
  if start ≤ stop then
    (splitBytes? start cs).bind fun parts =>
      (splitBytes? (stop - start) parts.2).map Prod.fst
  else none

theorem splitBytes?_length (xs ys : List Char) :
    splitBytes? (encode xs).length (xs ++ ys) = some (xs, ys) := by
  induction xs with
  | nil =>
      unfold splitBytes?
      rfl
  | cons c xs ih =>
      have hpos := c.utf8Size_pos
      obtain ⟨n, hn⟩ : ∃ n, (encode (c :: xs)).length = n + 1 :=
        ⟨(encode (c :: xs)).length - 1, by rw [length_encode_cons]; omega⟩
      have hrest : n + 1 - c.utf8Size = (encode xs).length := by
        rw [← hn, length_encode_cons]
        omega
      have hle : c.utf8Size ≤ n + 1 := by
        rw [← hn, length_encode_cons]
        omega
      rw [hn, List.cons_append, splitBytes?, if_pos hle, hrest, ih]
      rfl

theorem splitBytes?_eq_some_iff {n : Nat} {cs xs ys : List Char} :
    splitBytes? n cs = some (xs, ys) ↔ cs = xs ++ ys ∧ (encode xs).length = n := by
  constructor
  · intro h
    induction cs generalizing n xs with
    | nil =>
        cases n with
        | zero =>
            rw [splitBytes?] at h
            cases h
            exact ⟨rfl, rfl⟩
        | succ n => cases h
    | cons c cs ih =>
        cases n with
        | zero =>
            rw [splitBytes?] at h
            cases h
            exact ⟨rfl, rfl⟩
        | succ n =>
            rw [splitBytes?] at h
            split at h
            · rename_i hle
              obtain ⟨⟨xs', ys'⟩, hparts, heq⟩ := Option.map_eq_some_iff.1 h
              cases heq
              obtain ⟨rfl, hlength⟩ := ih hparts
              refine ⟨rfl, ?_⟩
              rw [length_encode_cons, hlength]
              omega
            · cases h
  · rintro ⟨rfl, rfl⟩
    exact splitBytes?_length xs ys

/-- Two offsets enclose a part of a text exactly if they count the bytes in front of it and behind
it. -/
theorem between?_eq_some_iff {cs part : List Char} {start stop : Nat} :
    between? cs start stop = some part ↔
      ∃ xs ys, cs = xs ++ part ++ ys ∧ (encode xs).length = start ∧
        (encode (xs ++ part)).length = stop := by
  constructor
  · intro h
    rw [between?] at h
    split at h
    · rename_i hle
      obtain ⟨⟨xs, rest⟩, hstart, h⟩ := Option.bind_eq_some_iff.1 h
      obtain ⟨⟨part', ys⟩, hstop, rfl⟩ := Option.map_eq_some_iff.1 h
      obtain ⟨rfl, hxs⟩ := splitBytes?_eq_some_iff.1 hstart
      obtain ⟨hrest, hpart⟩ : rest = part' ++ ys ∧ (encode part').length = stop - start :=
        splitBytes?_eq_some_iff.1 hstop
      refine ⟨xs, ys, by rw [hrest, List.append_assoc], hxs, ?_⟩
      rw [length_encode_append, hpart, hxs]
      exact Nat.add_sub_of_le hle
    · cases h
  · rintro ⟨xs, ys, rfl, rfl, rfl⟩
    have hlength : (encode (xs ++ part)).length - (encode xs).length = (encode part).length := by
      rw [length_encode_append, Nat.add_sub_cancel_left]
    have hle : (encode xs).length ≤ (encode (xs ++ part)).length := by
      rw [length_encode_append]
      exact Nat.le_add_right ..
    rw [between?, if_pos hle, List.append_assoc, splitBytes?_length, Option.bind_some, hlength,
      splitBytes?_length]
    rfl

/-- The valid positions of a text are the offsets at which it can be cut. -/
theorem isValid_iff {s : String} {offset : Nat} :
    (⟨offset⟩ : String.Pos.Raw).IsValid s ↔
      ∃ xs ys, s.toList = xs ++ ys ∧ (encode xs).length = offset := by
  rw [String.Pos.Raw.isValid_iff_exists_append]
  constructor
  · rintro ⟨a, b, rfl, ha⟩
    refine ⟨a.toList, b.toList, String.toList_append, ?_⟩
    rw [length_encode_toList]
    exact (congrArg String.Pos.Raw.byteIdx ha).symm
  · rintro ⟨xs, ys, hs, rfl⟩
    refine ⟨String.ofList xs, String.ofList ys, ?_, ?_⟩
    · rw [← String.ofList_append, ← hs, String.ofList_toList]
    · have hsize := length_encode_toList (String.ofList xs)
      rw [String.toList_ofList] at hsize
      exact String.Pos.Raw.ext hsize

/-! ## Searching -/

/-- The offset of the first occurrence of a word. -/
def offsetOf? (word : List Char) : List Char → Option Nat
  | [] => if word.isEmpty then some 0 else none
  | c :: rest =>
    if word.isPrefixOf (c :: rest) then some 0
    else (offsetOf? word rest).map (· + c.utf8Size)

/-- The offset of the first character of a kind. -/
def offsetWhere? (p : Char → Bool) : List Char → Option Nat
  | [] => none
  | c :: rest => if p c then some 0 else (offsetWhere? p rest).map (· + c.utf8Size)

/-- An offset counts the bytes of the characters that are passed. -/
theorem offsetOf?_eq (word cs : List Char) :
    offsetOf? word cs = (find? word cs).map fun n => (encode (cs.take n)).length := by
  induction cs with
  | nil =>
      rw [offsetOf?, find?]
      split <;> rfl
  | cons c cs ih =>
      rw [offsetOf?, find?]
      split
      · rfl
      · rw [ih, Option.map_map, Option.map_map]
        refine congrFun (congrArg Option.map (funext fun n => ?_)) _
        simp only [Function.comp_apply, List.take_succ_cons, length_encode_cons]
        exact Nat.add_comm ..

/-- Without a character of the kind, all of the text is in front of it. -/
theorem offsetWhere?_getD (p : Char → Bool) (cs : List Char) :
    (offsetWhere? p cs).getD (encode cs).length =
      (encode (cs.takeWhile fun c => !p c)).length := by
  induction cs with
  | nil => rfl
  | cons c cs ih =>
      rw [offsetWhere?]
      by_cases hc : p c = true
      · rw [if_pos hc, List.takeWhile_cons_of_neg (by simp [hc])]
        rfl
      · rw [if_neg hc, List.takeWhile_cons_of_pos (by simpa using hc), length_encode_cons,
          length_encode_cons, ← ih]
        cases offsetWhere? p cs with
        | none => rfl
        | some n => exact Nat.add_comm ..

end Text

end PagePress
