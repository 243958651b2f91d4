import Mathlib.Data.List.DropRight
import PagePress.Markdown.LineIndex

/-!
# Lines — where a place between two characters lies

A line index finds a byte offset by the starts of lines, and counts characters from there on.

* `bytes` is the size of characters, and `pointAfter` the point behind them, both said of the
  characters alone;
* `point_ofText`: behind the first part of a text, the index of the text gives this point;
* `point_mono`: points come in the order of the offsets that they are taken at.
-/

namespace PagePress

namespace Mdast

/-- One point comes no later than another, by line and column and by offset. -/
structure Point.Le (p q : Point) : Prop where
  place : p.line < q.line ∨ p.line = q.line ∧ p.column ≤ q.column
  offset : ∃ a ∈ p.offset, ∃ b ∈ q.offset, a ≤ b

instance : LE Point := ⟨Point.Le⟩

theorem Point.le_trans {p q r : Point} (hpq : p ≤ q) (hqr : q ≤ r) : p ≤ r := by
  obtain ⟨a, ha, b, hb, hab⟩ := hpq.offset
  obtain ⟨b', hb', c, hc, hbc⟩ := hqr.offset
  obtain rfl : b = b' := Option.mem_unique hb hb'
  refine ⟨?_, a, ha, c, hc, hab.trans hbc⟩
  have hplace := hpq.place
  have hplace' := hqr.place
  omega

/-- Points that are compared have an offset, and so each is no later than itself. -/
theorem Point.Le.refl_left {p q : Point} (h : p ≤ q) : p ≤ p := by
  obtain ⟨a, ha, -⟩ := h.offset
  exact ⟨.inr ⟨rfl, le_rfl⟩, a, ha, a, ha, le_rfl⟩

theorem Point.Le.refl_right {p q : Point} (h : p ≤ q) : q ≤ q := by
  obtain ⟨-, -, b, hb, -⟩ := h.offset
  exact ⟨.inr ⟨rfl, le_rfl⟩, b, hb, b, hb, le_rfl⟩

end Mdast

namespace Markdown

open Mdast (Point)

/-! ## Sizes -/

/-- The number of bytes that characters take up. -/
def bytes : List Char → Nat
  | [] => 0
  | c :: cs => c.utf8Size + bytes cs

theorem bytes_nil : bytes [] = 0 := rfl

theorem bytes_cons (c : Char) (cs : List Char) : bytes (c :: cs) = c.utf8Size + bytes cs := rfl

theorem bytes_append (xs ys : List Char) : bytes (xs ++ ys) = bytes xs + bytes ys := by
  induction xs with
  | nil => exact (Nat.zero_add _).symm
  | cons c xs ih => rw [List.cons_append, bytes_cons, bytes_cons, ih, Nat.add_assoc]

theorem eq_nil_of_bytes {cs : List Char} (h : bytes cs = 0) : cs = [] := by
  cases cs with
  | nil => rfl
  | cons c cs =>
      have hpos := c.utf8Size_pos
      rw [bytes_cons] at h
      omega

theorem utf8ByteSize_ofList (cs : List Char) : (String.ofList cs).utf8ByteSize = bytes cs := by
  induction cs with
  | nil => rfl
  | cons c cs ih =>
      have hcons : String.ofList (c :: cs) = String.singleton c ++ String.ofList cs := by
        rw [← List.singleton_append, String.ofList_append, String.singleton_eq_ofList]
      rw [hcons, String.utf8ByteSize_append, String.utf8ByteSize_singleton, ih, bytes_cons]

theorem bytes_toList (s : String) : bytes s.toList = s.utf8ByteSize := by
  rw [← utf8ByteSize_ofList, String.ofList_toList]

/-- A place between two characters of a text, or at one of its ends. -/
theorem exists_of_isValid {text : String} {offset : Nat}
    (h : (⟨offset⟩ : String.Pos.Raw).IsValid text) :
    ∃ pre post, text.toList = pre ++ post ∧ offset = bytes pre := by
  obtain ⟨s, t, rfl, hs⟩ := String.Pos.Raw.isValid_iff_exists_append.1 h
  refine ⟨s.toList, t.toList, String.toList_append, ?_⟩
  rw [bytes_toList]
  exact congrArg String.Pos.Raw.byteIdx hs

/-! ## Points behind characters -/

/-- The point behind characters: their lines, the characters of the last line, and all of them. -/
def pointAfter (cs : List Char) : Point :=
  ⟨cs.count '\n' + 1, (cs.rtakeWhile (· != '\n')).length + 1, some cs.length⟩

theorem rtakeWhile_append_of_not_mem (xs : List Char) {ys : List Char} (h : '\n' ∉ ys) :
    (xs ++ ys).rtakeWhile (· != '\n') = xs.rtakeWhile (· != '\n') ++ ys := by
  have hys : ∀ c ∈ ys.reverse, (c != '\n') = true := by
    intro c hc
    have hne : c ≠ '\n' := fun heq => h (heq ▸ List.mem_reverse.1 hc)
    simpa using hne
  rw [List.rtakeWhile, List.rtakeWhile, List.reverse_append, List.takeWhile_append_of_pos hys,
    List.reverse_append, List.reverse_reverse]

theorem rtakeWhile_append_newline (xs ys : List Char) :
    (xs ++ '\n' :: ys).rtakeWhile (· != '\n') = ys.rtakeWhile (· != '\n') := by
  simp only [List.rtakeWhile, List.reverse_append, List.reverse_cons, List.append_assoc,
    List.takeWhile_append]
  split
  · rename_i hall
    rw [(List.takeWhile_prefix _).eq_of_length hall]
    simp
  · rfl

/-- Points come in the order of what stands in front of them. -/
theorem pointAfter_mono (xs ys : List Char) : pointAfter xs ≤ pointAfter (xs ++ ys) := by
  refine ⟨?_, _, rfl, _, rfl, by simp⟩
  by_cases h : '\n' ∈ ys
  · -- A line feed in between leads to a later line.
    have hpos : 0 < ys.count '\n' := List.count_pos_iff.2 h
    left
    simp only [pointAfter, List.count_append]
    omega
  · right
    simp [pointAfter, List.count_append, List.count_eq_zero_of_not_mem h,
      rtakeWhile_append_of_not_mem xs h]

/-! ## The lines of a text -/

namespace LineIndex

theorem linesAfter_cons (b c : Nat) (x : Char) (cs : List Char) :
    linesAfter b c (x :: cs) =
      if x = '\n' then
        ⟨b + x.utf8Size, c + 1, cs⟩ :: linesAfter (b + x.utf8Size) (c + 1) cs
      else linesAfter (b + x.utf8Size) (c + 1) cs :=
  rfl

theorem lt_byteStart {cs : List Char} :
    ∀ {b c : Nat}, ∀ l ∈ linesAfter b c cs, b < l.byteStart := by
  induction cs with
  | nil => simp [linesAfter]
  | cons x cs ih =>
      intro b c l hl
      have hpos := x.utf8Size_pos
      have htail : ∀ l ∈ linesAfter (b + x.utf8Size) (c + 1) cs, b < l.byteStart :=
        fun l hl => Nat.lt_of_le_of_lt (Nat.le_add_right ..) (ih l hl)
      rw [linesAfter_cons] at hl
      split at hl
      · rcases List.mem_cons.1 hl with rfl | hl
        · exact Nat.lt_add_of_pos_right hpos
        · exact htail l hl
      · exact htail l hl

/-- The lines that start no later than an offset. -/
def startedBy (offset : Nat) (ls : List Line) : List Line :=
  ls.takeWhile fun l => l.byteStart ≤ offset

/-- The lines that start within `pre`, and the last of them.  The line at hand starts behind `b`
bytes and `c` characters, and `head` is what was passed of it. -/
theorem startedBy_linesAfter (pre post : List Char) :
    ∀ {b c : Nat} {head : List Char}, '\n' ∉ head →
      (startedBy (b + bytes (head ++ pre))
          (linesAfter (b + bytes head) (c + head.length) (pre ++ post))).length = pre.count '\n' ∧
        ∃ before, head ++ pre = before ++ (head ++ pre).rtakeWhile (· != '\n') ∧
          (startedBy (b + bytes (head ++ pre))
              (linesAfter (b + bytes head) (c + head.length) (pre ++ post))).getLastD
              ⟨b, c, head ++ (pre ++ post)⟩ =
            ⟨b + bytes before, c + before.length,
              (head ++ pre).rtakeWhile (· != '\n') ++ post⟩ := by
  induction pre with
  | nil =>
      intro b c head hhead
      have hnone : startedBy (b + bytes head) (linesAfter (b + bytes head) (c + head.length) post) =
          [] := by
        rw [startedBy, List.takeWhile_eq_nil_iff]
        intro hpos hle
        have hlt := lt_byteStart _ (List.getElem_mem hpos)
        exact Nat.not_le_of_lt hlt (by simpa using hle)
      have hself := rtakeWhile_append_of_not_mem [] hhead
      simp only [List.nil_append, List.append_nil, hnone] at hself ⊢
      exact ⟨rfl, [], by simp [hself], by simp [hself, bytes]⟩
  | cons x pre ih =>
      intro b c head hhead
      rw [List.cons_append, linesAfter_cons]
      by_cases hx : x = '\n'
      · -- A line starts here, and nothing of it is passed.
        subst hx
        obtain ⟨hcount, before, hsplit, hlast⟩ :=
          ih (b := b + bytes head + '\n'.utf8Size) (c := c + head.length + 1)
            (List.not_mem_nil (a := '\n'))
        have hbound : b + bytes (head ++ '\n' :: pre) =
            b + bytes head + '\n'.utf8Size + bytes ([] ++ pre) := by
          rw [bytes_append, bytes_cons, List.nil_append]
          omega
        rw [if_pos rfl, hbound, rtakeWhile_append_newline, startedBy,
          List.takeWhile_cons_of_pos (by simp), List.length_cons, List.getLastD_cons]
        refine ⟨?_, head ++ '\n' :: before, ?_, ?_⟩
        · rw [List.count_cons_self]
          exact congrArg (· + 1) hcount
        · rw [List.append_assoc, List.cons_append]
          exact congrArg (head ++ '\n' :: ·) hsplit
        · refine hlast.trans ?_
          simp only [List.nil_append, bytes_append, bytes_cons, List.length_append,
            List.length_cons, Line.mk.injEq, and_true]
          omega
      · have hhead' : '\n' ∉ head ++ [x] := by
          simp [hhead, Ne.symm hx]
        have hrest := ih (b := b) (c := c) hhead'
        have hbytes : b + bytes (head ++ [x]) = b + bytes head + x.utf8Size := by
          rw [bytes_append, Nat.add_assoc]
          rfl
        simp only [List.append_assoc, List.singleton_append, List.length_append,
          List.length_singleton, hbytes] at hrest
        rw [if_neg hx, List.count_cons_of_ne hx]
        exact hrest

/-- Characters of a known size are counted. -/
theorem charsIn?_bytes (cs post : List Char) :
    charsIn? (bytes cs) (cs ++ post) = some cs.length := by
  induction cs with
  | nil =>
      unfold charsIn?
      rfl
  | cons c cs ih =>
      have hpos := c.utf8Size_pos
      obtain ⟨n, hn⟩ : ∃ n, bytes (c :: cs) = n + 1 :=
        ⟨bytes (c :: cs) - 1, by rw [bytes_cons]; omega⟩
      have hrest : n + 1 - c.utf8Size = bytes cs := by
        rw [← hn, bytes_cons]
        omega
      have hle : c.utf8Size ≤ n + 1 := by
        rw [← hn, bytes_cons]
        omega
      rw [hn, List.cons_append, charsIn?, if_pos hle, hrest, ih]
      rfl

/-- Behind the first part of a text the index gives the point behind its characters. -/
theorem point_ofText {text : String} {pre post : List Char} (h : text.toList = pre ++ post) :
    (ofText text).point (bytes pre) = pointAfter pre := by
  obtain ⟨hcount, before, hsplit, hlast⟩ :=
    startedBy_linesAfter pre post (b := 0) (c := 0) (List.not_mem_nil (a := '\n'))
  simp only [List.nil_append, Nat.zero_add, bytes_nil, List.length_nil, ← h] at hcount hsplit hlast
  generalize hcur : pre.rtakeWhile (· != '\n') = cur at hsplit hlast
  have hline : (ofText text).lineAt (bytes pre) =
      (pre.count '\n' + 1, ⟨bytes before, before.length, cur ++ post⟩) :=
    congrArg₂ (fun n l => (n + 1, l)) hcount hlast
  have hbytes : bytes pre - bytes before = bytes cur := by
    rw [hsplit, bytes_append, Nat.add_sub_cancel_left]
  have hlength : pre.length = before.length + cur.length := by rw [hsplit, List.length_append]
  rw [point, hline]
  dsimp only
  rw [hbytes, charsIn?_bytes, Option.getD_some, pointAfter, hcur, hlength]

/-- Points come in the order of the offsets that they are taken at. -/
theorem point_mono {text : String} {a b : Nat} (ha : (⟨a⟩ : String.Pos.Raw).IsValid text)
    (hb : (⟨b⟩ : String.Pos.Raw).IsValid text) (hab : a ≤ b) :
    (ofText text).point a ≤ (ofText text).point b := by
  obtain ⟨pre, post, htext, rfl⟩ := exists_of_isValid ha
  obtain ⟨pre', post', htext', rfl⟩ := exists_of_isValid hb
  rw [point_ofText htext, point_ofText htext']
  rcases List.append_eq_append_iff.1 (htext.symm.trans htext') with ⟨xs, rfl, -⟩ | ⟨xs, rfl, -⟩
  · exact pointAfter_mono pre xs
  · -- The longer of the two parts is no larger, and so they are the same.
    have hnil : xs = [] := by
      refine eq_nil_of_bytes ?_
      rw [bytes_append] at hab
      omega
    rw [hnil, List.append_nil]
    simpa using pointAfter_mono pre' []

end LineIndex

end Markdown

end PagePress
