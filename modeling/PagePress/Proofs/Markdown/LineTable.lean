import PagePress.Proofs.Markdown.Lines
import PagePress.Proofs.Text.Checked

/-!
# Line tables — points by looking up where lines start

The starts of the lines are written down in two lists, in bytes and in characters, while a text is
read once.  The line of an offset is found by bisecting the one list and read off both at one index,
and its column is counted in a part that is cut out of the text.

* `LineTable` are these lists, and `LineTable.point` looks up an offset, where every index, every
  difference and the bisection itself could fail;
* `LineTable.point_ofText`: none of them does, whatever the offset, and the point is that of the
  line index;
* `pointAfter_lt`: points come in the strict order of what stands in front of them;
* `point_exact` is what a point says of an offset between two characters.
-/

namespace PagePress

namespace Mdast

/-- One point comes before another, by line and column and by offset. -/
structure Point.Lt (p q : Point) : Prop where
  place : p.line < q.line ∨ p.line = q.line ∧ p.column < q.column
  offset : ∃ a ∈ p.offset, ∃ b ∈ q.offset, a < b

instance : LT Point := ⟨Point.Lt⟩

theorem Point.ne_of_lt {p q : Point} (h : p < q) : p ≠ q := by
  rintro rfl
  obtain ⟨a, ha, b, hb, hlt⟩ := h.offset
  obtain rfl : a = b := Option.mem_unique ha hb
  exact Nat.lt_irrefl a hlt

end Mdast

namespace Markdown

open Mdast (Point)
open Text (encode)
open Checked (Fault sub item)

theorem length_encode (cs : List Char) : (encode cs).length = bytes cs := by
  induction cs with
  | nil => rfl
  | cons c cs ih => rw [Text.length_encode_cons, ih, bytes_cons]

/-! ## Tables -/

/-- A text with the starts of its lines in bytes and in characters. -/
structure LineTable where
  text : List Char
  starts : List Nat
  charStarts : List Nat

namespace LineTable

/-- Notes the starts of the lines behind the line feeds of `cs`, where `offset` bytes and `chars`
characters stand before it. -/
def read (table : LineTable) (offset chars : Nat) : List Char → LineTable
  | [] => table
  | c :: cs =>
    let noted :=
      if c = '\n' then
        { table with
          starts := table.starts ++ [offset + 1]
          charStarts := table.charStarts ++ [chars + 1] }
      else table
    read noted (offset + c.utf8Size) (chars + 1) cs

/-- The table of a text; its first line starts at its front. -/
def ofText (text : String) : LineTable := read ⟨text.toList, [0], [0]⟩ 0 0 text.toList

/-- Looks up the place of an offset.  Where the part from the start of the line to the offset cannot
be cut out, bytes count as characters. -/
def point (table : LineTable) (offset : Nat) : Except Fault Point := do
  let line ← Checked.partitionPoint (fun start => start ≤ offset) table.starts
  let start ← item table.starts (← sub line 1)
  let size ← sub offset start
  let column := ((Text.between? table.text start offset).map List.length).getD size
  let chars ← item table.charStarts (← sub line 1)
  pure ⟨line, column + 1, some (chars + column)⟩

end LineTable

/-! ## What the tables hold -/

namespace LineIndex

/-- Each line starts where characters of the text end. -/
theorem exists_of_mem_linesAfter {cs : List Char} :
    ∀ {b c : Nat}, ∀ l ∈ linesAfter b c cs,
      ∃ pre, cs = pre ++ l.rest ∧ l.byteStart = b + bytes pre ∧ l.charStart = c + pre.length := by
  induction cs with
  | nil => simp [linesAfter]
  | cons x cs ih =>
      intro b c l hl
      have htail : ∀ l ∈ linesAfter (b + x.utf8Size) (c + 1) cs, ∃ pre, x :: cs = pre ++ l.rest ∧
          l.byteStart = b + bytes pre ∧ l.charStart = c + pre.length := by
        intro l hl
        obtain ⟨pre, hsplit, hbytes, hchars⟩ := ih l hl
        refine ⟨x :: pre, congrArg (x :: ·) hsplit, ?_, ?_⟩
        · rw [hbytes, bytes_cons, Nat.add_assoc]
        · rw [hchars, List.length_cons]
          omega
      rw [linesAfter_cons] at hl
      split at hl
      · rcases List.mem_cons.1 hl with rfl | hl
        · exact ⟨[x], rfl, rfl, rfl⟩
        · exact htail l hl
      · exact htail l hl

/-- Behind the lines that start no later than an offset there is none that does. -/
theorem lt_of_mem_dropWhile {cs : List Char} {offset : Nat} :
    ∀ {b c : Nat}, ∀ l ∈ (linesAfter b c cs).dropWhile (fun l => l.byteStart ≤ offset),
      offset < l.byteStart := by
  induction cs with
  | nil => simp [linesAfter]
  | cons x cs ih =>
      intro b c l hl
      rw [linesAfter_cons] at hl
      split at hl
      · by_cases hle : b + x.utf8Size ≤ offset
        · rw [List.dropWhile_cons_of_pos (by simpa using hle)] at hl
          exact ih l hl
        · -- The lines further behind start later still.
          rw [List.dropWhile_cons_of_neg (by simpa using hle)] at hl
          rcases List.mem_cons.1 hl with rfl | hl
          · exact Nat.lt_of_not_le hle
          · exact Nat.lt_trans (Nat.lt_of_not_le hle) (lt_byteStart l hl)
      · exact ih l hl

theorem charsIn?_eq (n : Nat) (cs : List Char) :
    charsIn? n cs = (Text.splitBytes? n cs).map fun parts => parts.1.length := by
  induction cs generalizing n with
  | nil =>
      cases n <;> rw [charsIn?, Text.splitBytes?] <;> rfl
  | cons c cs ih =>
      cases n with
      | zero =>
          rw [charsIn?, Text.splitBytes?]
          rfl
      | succ n =>
          rw [charsIn?, Text.splitBytes?]
          split
          · rw [ih, Option.map_map, Option.map_map]
            rfl
          · rfl

/-- The line of an offset, between the lines that start before it and those that start behind the
offset. -/
theorem exists_lineAt (text : String) (offset : Nat) :
    ∃ before after : List Line, ∃ line : Line,
      (ofText text).first :: (ofText text).later = before ++ [line] ++ after ∧
        (ofText text).lineAt offset = (before.length + 1, line) ∧
        (∀ l ∈ before ++ [line], l.byteStart ≤ offset) ∧ ∀ l ∈ after, offset < l.byteStart := by
  have hsplit := List.takeWhile_append_dropWhile (p := fun l : Line => l.byteStart ≤ offset)
    (l := (ofText text).later)
  have hle : ∀ l ∈ (ofText text).first ::
      (ofText text).later.takeWhile (fun l => l.byteStart ≤ offset), l.byteStart ≤ offset := by
    rw [List.forall_mem_cons]
    refine ⟨Nat.zero_le _, fun l hl => ?_⟩
    simpa using List.all_eq_true.1 List.all_takeWhile l hl
  have hlt : ∀ l ∈ (ofText text).later.dropWhile (fun l => l.byteStart ≤ offset),
      offset < l.byteStart := lt_of_mem_dropWhile
  generalize (ofText text).later.dropWhile (fun l => l.byteStart ≤ offset) = after at hsplit hlt
  rcases List.eq_nil_or_concat
    ((ofText text).later.takeWhile fun l => l.byteStart ≤ offset) with hnil | ⟨ls, line, hconcat⟩
  · -- No line starts between the front of the text and the offset.
    rw [hnil] at hsplit hle
    refine ⟨[], after, (ofText text).first, congrArg _ hsplit.symm, ?_, hle, hlt⟩
    rw [lineAt, hnil]
    rfl
  · rw [hconcat, List.concat_eq_append] at hsplit hle
    refine ⟨(ofText text).first :: ls, after, line, ?_, ?_, hle, hlt⟩
    · rw [← hsplit]
      simp
    · rw [lineAt, hconcat]
      simp

/-- Every line starts where characters of the text end. -/
theorem exists_of_mem_ofText {text : String} {line : Line}
    (h : line ∈ (ofText text).first :: (ofText text).later) :
    ∃ pre, text.toList = pre ++ line.rest ∧ line.byteStart = bytes pre ∧
      line.charStart = pre.length := by
  rcases List.mem_cons.1 h with rfl | h
  · exact ⟨[], rfl, rfl, rfl⟩
  · obtain ⟨pre, hsplit, hbytes, hchars⟩ := exists_of_mem_linesAfter line h
    exact ⟨pre, hsplit, hbytes.trans (Nat.zero_add _), hchars.trans (Nat.zero_add _)⟩

end LineIndex

namespace LineTable

open LineIndex (linesAfter)

/-- Reading notes the lines of the index. -/
theorem read_eq (cs : List Char) :
    ∀ (table : LineTable) (offset chars : Nat), table.read offset chars cs =
      { table with
        starts := table.starts ++ (linesAfter offset chars cs).map Line.byteStart
        charStarts := table.charStarts ++ (linesAfter offset chars cs).map Line.charStart } := by
  induction cs with
  | nil =>
      intro table offset chars
      simp [read, linesAfter]
  | cons c cs ih =>
      intro table offset chars
      rw [read, ih, LineIndex.linesAfter_cons]
      by_cases hc : c = '\n'
      · have hsize : '\n'.utf8Size = 1 := rfl
        simp [hc, hsize]
      · simp [hc]

theorem ofText_eq (text : String) :
    ofText text =
      ⟨text.toList,
        ((LineIndex.ofText text).first :: (LineIndex.ofText text).later).map Line.byteStart,
        ((LineIndex.ofText text).first :: (LineIndex.ofText text).later).map Line.charStart⟩ :=
  read_eq ..

/-- The part from the start of a line to an offset, counted in characters. -/
theorem length_between? {pre rest : List Char} {start offset : Nat} (hstart : start = bytes pre)
    (h : start ≤ offset) :
    (Text.between? (pre ++ rest) start offset).map List.length =
      LineIndex.charsIn? (offset - start) rest := by
  have hsplit := Text.splitBytes?_length pre rest
  rw [length_encode, ← hstart] at hsplit
  rw [Text.between?, if_pos h, hsplit, Option.bind_some, LineIndex.charsIn?_eq, Option.map_map]
  rfl

/-- Looking up an offset never fails, and it gives the point of the line index, for an offset inside
a character and behind the end as well. -/
theorem point_ofText (text : String) (offset : Nat) :
    (ofText text).point offset = .ok ((LineIndex.ofText text).point offset) := by
  obtain ⟨before, after, line, hlines, hline, hle, hlt⟩ := LineIndex.exists_lineAt text offset
  have hmem : line ∈ (LineIndex.ofText text).first :: (LineIndex.ofText text).later := by
    rw [hlines]
    simp
  obtain ⟨pre, hsplit, hbytes, -⟩ := LineIndex.exists_of_mem_ofText hmem
  have hstart : line.byteStart ≤ offset := hle line (by simp)
  have hpartition : Checked.partitionPoint (fun start => start ≤ offset)
      ((before ++ [line] ++ after).map Line.byteStart) = .ok (before.length + 1) := by
    rw [List.map_append, Checked.partitionPoint_append]
    · simp
    · exact List.forall_mem_map.2 fun l hl => decide_eq_true (hle l hl)
    · exact List.forall_mem_map.2 fun l hl => decide_eq_false (Nat.not_le_of_lt (hlt l hl))
  have hitem : ∀ f : Line → Nat,
      item ((before ++ [line] ++ after).map f) before.length = .ok (f line) := by
    intro f
    exact Checked.item_of_getElem? (by simp)
  rw [ofText_eq, hlines, point, hpartition, Checked.ok_bind, Checked.sub_of_le (Nat.le_add_left ..)]
  simp only [Checked.ok_bind, Nat.add_sub_cancel, hitem, Checked.sub_of_le hstart, hsplit,
    length_between? hbytes hstart]
  rw [LineIndex.point, hline]
  rfl

end LineTable

/-! ## The order of points -/

theorem pointAfter_lt (xs : List Char) {ys : List Char} (h : ys ≠ []) :
    pointAfter xs < pointAfter (xs ++ ys) := by
  have hpos : 0 < ys.length := List.length_pos_iff.2 h
  refine ⟨?_, _, rfl, _, rfl, by simpa using hpos⟩
  by_cases hnewline : '\n' ∈ ys
  · have hcount : 0 < ys.count '\n' := List.count_pos_iff.2 hnewline
    left
    simp only [pointAfter, List.count_append]
    omega
  · right
    have hline : (xs ++ ys).count '\n' = xs.count '\n' := by
      rw [List.count_append, List.count_eq_zero_of_not_mem hnewline, Nat.add_zero]
    have hcolumn := congrArg List.length (rtakeWhile_append_of_not_mem xs hnewline)
    rw [List.length_append] at hcolumn
    simp only [pointAfter, hline, hcolumn, true_and]
    omega

namespace LineIndex

variable {text : String} {i j : Nat}

theorem point_lt (hi : (⟨i⟩ : String.Pos.Raw).IsValid text)
    (hj : (⟨j⟩ : String.Pos.Raw).IsValid text) (hij : i < j) :
    (ofText text).point i < (ofText text).point j := by
  obtain ⟨pre, post, htext, rfl⟩ := exists_of_isValid hi
  obtain ⟨pre', post', htext', rfl⟩ := exists_of_isValid hj
  rw [point_ofText htext, point_ofText htext']
  rcases List.append_eq_append_iff.1 (htext.symm.trans htext') with ⟨xs, rfl, -⟩ | ⟨xs, rfl, -⟩
  · refine pointAfter_lt pre ?_
    rintro rfl
    simp at hij
  · rw [bytes_append] at hij
    omega

/-- Behind the part `a` of a text, the line counts the line feeds of `a`, the column the characters
behind the last of them, and the offset all characters.  Between two characters points are in the
order of their offsets, and so no two are the same.  At any offset at all, looking the point up in
the table finds every index in range and takes no number from a smaller one. -/
theorem point_exact (text : String) :
    (∀ a b : String, text = a ++ b → (ofText text).point a.utf8ByteSize =
      ⟨a.toList.count '\n' + 1, (a.toList.rtakeWhile (· != '\n')).length + 1, some a.length⟩) ∧
    (∀ i j, (⟨i⟩ : String.Pos.Raw).IsValid text → (⟨j⟩ : String.Pos.Raw).IsValid text →
      (i < j → (ofText text).point i < (ofText text).point j) ∧
        ((ofText text).point i = (ofText text).point j → i = j)) ∧
    ∀ offset, (LineTable.ofText text).point offset = .ok ((ofText text).point offset) := by
  refine ⟨?_, fun i j hi hj => ⟨point_lt hi hj, fun heq => ?_⟩, LineTable.point_ofText text⟩
  · rintro a b rfl
    have hpoint : (ofText (a ++ b)).point (bytes a.toList) = pointAfter a.toList :=
      point_ofText String.toList_append
    rw [bytes_toList] at hpoint
    rw [hpoint, pointAfter, String.length_toList]
  · rcases Nat.lt_trichotomy i j with hij | hij | hij
    · exact absurd heq (Point.ne_of_lt (point_lt hi hj hij))
    · exact hij
    · exact absurd heq.symm (Point.ne_of_lt (point_lt hj hi hij))

end LineIndex

end Markdown

end PagePress
