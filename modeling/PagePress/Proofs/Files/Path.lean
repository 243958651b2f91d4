import PagePress.Files.Path

/-!
# Paths — what stands between the slashes, and where it leads

* `mem_segments_iff`: the segments of a path are the texts without a slash that slashes or the
  ends of the path enclose;
* `segments_slash`: the segments of a path below another one follow those of the other one;
* `toList_trimLeading` and `toList_trimTrailing`: trimming takes away nothing but slashes;
* `staysBelow_iff`: the steps of a path without leading slashes lead out of a directory exactly
  if a segment is `..`;
* `components_join`: a path below a directory goes on from the steps of the directory.
-/

namespace PagePress

namespace Files

namespace Path

/-! ## Pieces -/

theorem pieces_ne_nil (cs : List Char) : pieces cs ≠ [] := by
  cases cs with
  | nil => simp [pieces]
  | cons c cs =>
      unfold pieces
      split
      · exact List.cons_ne_nil _ _
      · split <;> exact List.cons_ne_nil _ _

theorem pieces_of_not_mem {cs : List Char} (h : '/' ∉ cs) : pieces cs = [cs] := by
  induction cs with
  | nil => rfl
  | cons c cs ih =>
      simp only [List.mem_cons, not_or] at h
      obtain ⟨hc, hcs⟩ := h
      rw [pieces, if_neg (Ne.symm hc), ih hcs]

/-- A slash ends a piece. -/
theorem pieces_append (cs ds : List Char) : pieces (cs ++ '/' :: ds) = pieces cs ++ pieces ds := by
  induction cs with
  | nil => rfl
  | cons c cs ih =>
      by_cases hc : c = '/'
      · rw [List.cons_append, pieces, if_pos hc, ih, pieces, if_pos hc, List.cons_append]
      · rw [List.cons_append, pieces, if_neg hc, ih, pieces, if_neg hc]
        cases h : pieces cs with
        | nil => exact absurd h (pieces_ne_nil cs)
        | cons p ps => rfl

/-- A text without a slash that slashes or the ends of a text enclose. -/
structure Enclosed (p cs : List Char) : Prop where
  unbroken : '/' ∉ p
  split : ∃ front back, cs = front ++ p ++ back ∧
    (front = [] ∨ front.getLast? = some '/') ∧ (back = [] ∨ back.head? = some '/')

theorem enclosed_of_mem_pieces :
    ∀ (n : Nat) {p cs : List Char}, cs.length ≤ n → p ∈ pieces cs → Enclosed p cs := by
  intro n
  induction n with
  | zero =>
      intro p cs hlen h
      obtain rfl := List.length_eq_zero_iff.1 (Nat.le_zero.1 hlen)
      obtain rfl : p = [] := by simpa [pieces] using h
      exact ⟨by simp, [], [], rfl, .inl rfl, .inl rfl⟩
  | succ n ih =>
      intro p cs hlen h
      by_cases hslash : '/' ∈ cs
      · -- The first piece ends at the first slash, and the others are pieces of the rest.
        obtain ⟨xs, ys, rfl, hxs⟩ := List.eq_append_cons_of_mem hslash
        rw [pieces_append, pieces_of_not_mem hxs, List.singleton_append] at h
        rcases List.mem_cons.1 h with rfl | h
        · exact ⟨hxs, [], '/' :: ys, rfl, .inl rfl, .inr rfl⟩
        · have hshort : ys.length ≤ n := by
            simp at hlen
            omega
          obtain ⟨hunbroken, front, back, rfl, hfront, hback⟩ := ih hshort h
          refine ⟨hunbroken, xs ++ '/' :: front, back, by simp, .inr ?_, hback⟩
          rcases hfront with rfl | hfront
          · simp
          · simp [List.getLast?_append, List.getLast?_cons, hfront]
      · rw [pieces_of_not_mem hslash] at h
        obtain rfl := List.mem_singleton.1 h
        exact ⟨hslash, [], [], by simp, .inl rfl, .inl rfl⟩

theorem mem_pieces_of_enclosed {p cs : List Char} (h : Enclosed p cs) : p ∈ pieces cs := by
  obtain ⟨hunbroken, front, back, rfl, hfront, hback⟩ := h
  have hback : p ∈ pieces (p ++ back) := by
    rcases hback with rfl | hback
    · simp [pieces_of_not_mem hunbroken]
    · obtain ⟨back, rfl⟩ := List.head?_eq_some_iff.1 hback
      rw [pieces_append, pieces_of_not_mem hunbroken]
      exact List.mem_append_left _ (List.mem_singleton_self p)
  rcases hfront with rfl | hfront
  · simpa using hback
  · obtain ⟨front, rfl⟩ := List.getLast?_eq_some_iff.1 hfront
    rw [List.append_assoc, List.append_assoc, List.singleton_append, pieces_append]
    exact List.mem_append_right _ hback

theorem mem_pieces_iff {p cs : List Char} : p ∈ pieces cs ↔ Enclosed p cs :=
  ⟨enclosed_of_mem_pieces cs.length (Nat.le_refl _), mem_pieces_of_enclosed⟩

/-! ## Segments -/

/-- The segments of a path are the texts that its slashes enclose. -/
theorem mem_segments_iff {s path : String} :
    s ∈ segments path ↔ Enclosed s.toList path.toList := by
  rw [← mem_pieces_iff, segments, List.mem_map]
  constructor
  · rintro ⟨p, hp, rfl⟩
    rwa [String.toList_ofList]
  · intro h
    exact ⟨s.toList, h, String.ofList_toList⟩

theorem segments_ne_nil (path : String) : segments path ≠ [] := by
  simp [segments, pieces_ne_nil]

theorem head?_segments_append (path : String) (ss : List String) :
    (segments path ++ ss).head? = (segments path).head? := by
  obtain ⟨s, rest, hsegments⟩ := List.exists_cons_of_ne_nil (segments_ne_nil path)
  rw [hsegments]
  rfl

theorem segments_slash (dir path : String) :
    segments (dir ++ "/" ++ path) = segments dir ++ segments path := by
  simp [segments, String.toList_append, pieces_append]

theorem segments_append_slash (dir : String) : segments (dir ++ "/") = segments dir ++ [""] := by
  have h := segments_slash dir ""
  rwa [String.append_empty] at h

/-- What empty segments do not matter to does not see leading slashes. -/
theorem filterMap_trimLeading {α : Type} {f : String → Option α} (hf : f "" = none)
    (path : String) :
    (segments (trimLeading path)).filterMap f = (segments path).filterMap f := by
  unfold segments trimLeading
  rw [String.toList_ofList]
  induction path.toList with
  | nil => rfl
  | cons c cs ih =>
      by_cases hc : c = '/'
      · simpa [hc, pieces, hf] using ih
      · simp [hc]

theorem mem_segments_trimLeading {s path : String} (hs : s ≠ "") :
    s ∈ segments (trimLeading path) ↔ s ∈ segments path := by
  have h := filterMap_trimLeading (f := fun t => if t = s then some () else none)
    (if_neg (Ne.symm hs)) path
  -- Membership is asked with a filter that an empty segment does not pass.
  have hmem : ∀ ts : List String,
      s ∈ ts ↔ (ts.filterMap fun t => if t = s then some () else none) ≠ [] := by
    intro ts
    simp [List.filterMap_eq_nil_iff]
  rw [hmem, hmem, h]

/-! ## Slashes at the ends -/

theorem exists_replicate_dropWhile (cs : List Char) :
    ∃ n, cs = List.replicate n '/' ++ cs.dropWhile (· = '/') := by
  have hall : ∀ c ∈ cs.takeWhile (· = '/'), c = '/' := by
    intro c hc
    simpa using List.all_eq_true.1 List.all_takeWhile c hc
  refine ⟨(cs.takeWhile (· = '/')).length, ?_⟩
  rw [← List.eq_replicate_of_mem hall, List.takeWhile_append_dropWhile]

theorem head?_dropWhile_ne (cs : List Char) : (cs.dropWhile (· = '/')).head? ≠ some '/' := by
  intro h
  have hne : cs.dropWhile (· = '/') ≠ [] := by
    intro hnil
    simp [hnil] at h
  have hhead : decide ((cs.dropWhile (· = '/')).head hne = '/') = false :=
    List.head_dropWhile_not (· = '/') hne
  rw [List.head?_eq_some_head hne] at h
  rw [Option.some.inj h] at hhead
  cases hhead

theorem toList_trimLeading (path : String) :
    ∃ n, path.toList = List.replicate n '/' ++ (trimLeading path).toList := by
  rw [trimLeading, String.toList_ofList]
  exact exists_replicate_dropWhile path.toList

theorem isAbsolute_trimLeading (path : String) : isAbsolute (trimLeading path) = false := by
  rw [isAbsolute, trimLeading, String.toList_ofList, beq_eq_false_iff_ne]
  exact head?_dropWhile_ne path.toList

theorem toList_trimTrailing (path : String) :
    ∃ n, path.toList = (trimTrailing path).toList ++ List.replicate n '/' := by
  obtain ⟨n, hn⟩ := exists_replicate_dropWhile path.toList.reverse
  refine ⟨n, ?_⟩
  rw [trimTrailing, String.toList_ofList]
  simpa using congrArg List.reverse hn

theorem getLast?_trimTrailing_ne (path : String) :
    (trimTrailing path).toList.getLast? ≠ some '/' := by
  rw [trimTrailing, String.toList_ofList, List.getLast?_reverse]
  exact head?_dropWhile_ne path.toList.reverse

/-- Nothing is left of a path exactly if it is all slashes. -/
theorem trimLeading_eq_empty_iff {path : String} :
    trimLeading path = "" ↔ ∀ c ∈ path.toList, c = '/' := by
  rw [trimLeading, String.ofList_eq_empty_iff]
  induction path.toList with
  | nil => simp
  | cons c cs ih =>
      by_cases hc : c = '/'
      · simp [hc, ih]
      · simp [hc]

/-! ## Names -/

/-- Whether a segment leads down to something. -/
structure Named (s : String) : Prop where
  ne_empty : s ≠ ""
  ne_here : s ≠ "."
  ne_up : s ≠ ".."
  unbroken : '/' ∉ s.toList

theorem passed_over {s : String} (h : s = "" ∨ s = ".") : (s != "" && s != ".") = false := by
  rcases h with rfl | rfl <;> rfl

theorem not_passed_over {s : String} (h : ¬ (s = "" ∨ s = ".")) :
    (s != "" && s != ".") = true := by
  simpa [not_or] using h

theorem names_eq_filterMap (path : String) :
    names path = (segments path).filterMap
      fun s => if s != "" && s != "." then some s else none := by
  rw [names, ← List.filterMap_eq_filter]
  rfl

theorem names_trimLeading (path : String) : names (trimLeading path) = names path := by
  rw [names_eq_filterMap, names_eq_filterMap, filterMap_trimLeading (by simp)]

theorem named_of_mem_names {s path : String} (hup : ".." ∉ segments path) (h : s ∈ names path) :
    Named s := by
  obtain ⟨hmem, hs⟩ := List.mem_filter.1 h
  simp only [Bool.and_eq_true, bne_iff_ne] at hs
  refine ⟨hs.1, hs.2, ?_, (mem_segments_iff.1 hmem).unbroken⟩
  rintro rfl
  exact hup hmem

/-! ## Steps -/

/-- Without a step up, the steps are those down to the names. -/
theorem filterMap_ofSegment? {path : String} (hup : ".." ∉ segments path) :
    (segments path).filterMap Component.ofSegment? = (names path).map Component.down := by
  unfold names
  generalize segments path = ss at hup
  induction ss with
  | nil => rfl
  | cons s ss ih =>
      simp only [List.mem_cons, not_or] at hup
      obtain ⟨hs, hss⟩ := hup
      by_cases hnone : s = "" ∨ s = "."
      · simp [Component.ofSegment?, hnone, passed_over hnone, ih hss]
      · simp [Component.ofSegment?, hnone, Ne.symm hs, not_passed_over hnone, ih hss]

theorem filterMap_ofSegment?_empty : [""].filterMap Component.ofSegment? = [] := rfl

/-- Only a segment `..` leads out of a directory. -/
theorem staysBelow_iff {path : String} (habs : isAbsolute path = false) :
    (components path).all Component.staysBelow = true ↔ ".." ∉ segments path := by
  -- What stands before the steps of the segments is at most the point at the start.
  have hstart : ((if isAbsolute path then [Component.root]
      else if (segments path).head? = some "." then [.here] else []).all
        Component.staysBelow) = true := by
    rw [habs, if_neg Bool.false_ne_true]
    split <;> rfl
  rw [components, List.all_append, hstart, Bool.true_and]
  constructor
  · intro h hmem
    exact Bool.false_ne_true
      (List.all_eq_true.1 h .up (List.mem_filterMap.2 ⟨"..", hmem, by decide⟩))
  · intro hup
    rw [filterMap_ofSegment? hup]
    simp [Component.staysBelow]

/-! ## Paths below directories -/

variable {path : String}

/-- A path below a directory starts with the path of the directory and a slash. -/
theorem join_eq (habs : isAbsolute path = false) (dir : String) :
    join dir path = join dir "" ++ path := by
  have hempty : isAbsolute "" = false := by decide
  unfold join
  simp only [habs, hempty, Bool.false_eq_true, if_false]
  split <;> simp

theorem join_cases (dir : String) :
    dir = "" ∧ join dir "" = "" ∨
      dir ≠ "" ∧ ∃ d, join dir "" = d ++ "/" ∧ (dir = d ∨ dir = d ++ "/") := by
  have hempty : isAbsolute "" = false := by decide
  unfold join
  rw [hempty]
  by_cases hdir : dir = ""
  · exact .inl ⟨hdir, by simp [hdir]⟩
  · refine .inr ⟨hdir, ?_⟩
    by_cases hend : dir.toList.getLast? = some '/'
    · obtain ⟨cs, hcs⟩ := List.getLast?_eq_some_iff.1 hend
      have heq : dir = String.ofList cs ++ "/" := by
        apply String.toList_injective
        simpa [String.toList_append] using hcs
      exact ⟨String.ofList cs, by simp [hend, ← heq], .inr heq⟩
    · exact ⟨dir, by simp [hdir, hend], .inl rfl⟩

theorem toList_join (habs : isAbsolute path = false) (dir : String) :
    (join dir path).toList = (join dir "").toList ++ path.toList := by
  rw [join_eq habs, String.toList_append]

theorem isAbsolute_append {dir : String} (hdir : dir ≠ "") (path : String) :
    isAbsolute (dir ++ path) = isAbsolute dir := by
  unfold isAbsolute
  cases h : dir.toList with
  | nil => exact absurd (String.toList_eq_nil_iff.1 h) hdir
  | cons c cs => simp [String.toList_append, h]

theorem append_slash_ne_empty (dir : String) : dir ++ "/" ≠ "" := by
  intro hempty
  simpa [String.toList_append] using congrArg String.toList hempty

/-- A path below a directory starts where the directory starts. -/
theorem isAbsolute_join (habs : isAbsolute path = false) (dir : String) :
    isAbsolute (join dir path) = isAbsolute dir := by
  rw [join_eq habs]
  rcases join_cases dir with ⟨rfl, hjoin⟩ | ⟨hdir, d, hjoin, hd⟩
  · rw [hjoin, String.empty_append, habs]
    rfl
  · rw [hjoin, isAbsolute_append (append_slash_ne_empty d)]
    rcases hd with rfl | rfl
    · exact isAbsolute_append hdir "/"
    · rfl

theorem components_slash (dir path : String) :
    components (dir ++ "/" ++ path) =
      components (dir ++ "/") ++ (segments path).filterMap Component.ofSegment? := by
  rw [components, components, isAbsolute_append (append_slash_ne_empty dir), segments_slash,
    segments_append_slash, head?_segments_append, head?_segments_append, List.filterMap_append,
    List.filterMap_append, filterMap_ofSegment?_empty, List.append_nil, List.append_assoc]

/-- The slash behind a directory is no step. -/
theorem components_append_slash {dir : String} (hdir : dir ≠ "") :
    components (dir ++ "/") = components dir := by
  rw [components, components, isAbsolute_append hdir, segments_append_slash,
    head?_segments_append, List.filterMap_append, filterMap_ofSegment?_empty, List.append_nil]

/-- A path below a directory goes on from the directory. -/
theorem components_join {dir : String} (hdir : dir ≠ "") (habs : isAbsolute path = false) :
    components (join dir path) =
      components dir ++ (segments path).filterMap Component.ofSegment? := by
  rw [join_eq habs]
  rcases join_cases dir with ⟨h, -⟩ | ⟨-, d, hjoin, hd⟩
  · exact absurd h hdir
  · rw [hjoin, components_slash]
    rcases hd with rfl | rfl
    · rw [components_append_slash hdir]
    · rfl

end Path

end Files

end PagePress
