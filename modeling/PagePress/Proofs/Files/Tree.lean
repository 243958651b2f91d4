import PagePress.Files.Tree
import PagePress.Proofs.Fallible
import PagePress.Proofs.Files.Path

/-!
# Trees of files — what a path below a directory can reach

A path is followed name by name, and only `..` leads up.  A path below a directory that has no
such segment is followed within that directory, so that nothing else decides what it names.

* `Entry.descend` goes down by names alone, and `follow_below` says that a path without `..` does
  no more than that;
* `Files.Within` singles out pictures that show nothing but what is below a directory;
* `descend_of_find_join`: what a path below a directory names is reached from the directory;
* `find_join_congr`: what it names is the same in all pictures that show the same directory.
-/

namespace PagePress

namespace Files

/-- What names lead down to from an entry. -/
def Entry.descend : List String → Entry → Option Entry
  | [], e => some e
  | s :: rest, e => (Entries.get? s e.entries).bind (descend rest)

/-! ## Following names -/

theorem follow_file (text : Option String) (above : List Entry) {ss : List String} (h : ss ≠ []) :
    follow (.file text :: above) ss = .error .notADirectory := by
  cases ss with
  | nil => exact absurd rfl h
  | cons s ss => rfl

theorem follow_here {s : String} (hs : s = "" ∨ s = ".") (es : List (String × Entry))
    (above : List Entry) (ss : List String) :
    follow (.directory es :: above) (s :: ss) = follow (.directory es :: above) ss := by
  rw [follow, if_pos hs]

/-- A name that is none of those with a meaning of their own leads down, if it leads anywhere. -/
theorem follow_down {s : String} (hs : ¬ (s = "" ∨ s = ".")) (hup : s ≠ "..")
    (es : List (String × Entry)) (above : List Entry) (ss : List String) :
    follow (.directory es :: above) (s :: ss) =
      if nameLimit < s.utf8ByteSize then .error .nameTooLong
      else match Entries.get? s es with
        | none => .error .missing
        | some e => follow (e :: .directory es :: above) ss := by
  rw [follow, if_neg hs]
  exact if_neg hup

theorem follow_append (xs ys : List String) :
    ∀ place : List Entry, follow place (xs ++ ys) = follow place xs >>= fun p => follow p ys := by
  induction xs with
  | nil =>
      intro place
      rw [List.nil_append, follow]
      rfl
  | cons s xs ih =>
      intro place
      cases place with
      | nil => rfl
      | cons e above =>
          cases e with
          | file text => rfl
          | directory es =>
              rw [List.cons_append, follow, follow]
              split
              · exact ih _
              · split
                · exact ih _
                · split
                  · rfl
                  · split
                    · rfl
                    · exact ih _

/-- Names other than `..` lead down from an entry by those of them that name something. -/
theorem follow_below {ss : List String} :
    ∀ {e : Entry} {above place : List Entry}, ".." ∉ ss → follow (e :: above) ss = .ok place →
      ∃ d rest, place = d :: rest ∧
        e.descend (ss.filter fun s => s != "" && s != ".") = some d := by
  induction ss with
  | nil =>
      intro e above place _ h
      cases h
      exact ⟨e, above, rfl, rfl⟩
  | cons s ss ih =>
      intro e above place hup h
      simp only [List.mem_cons, not_or] at hup
      obtain ⟨hs, hss⟩ := hup
      cases e with
      | file text => cases h
      | directory es =>
          by_cases hhere : s = "" ∨ s = "."
          · rw [follow_here hhere] at h
            simpa [Path.passed_over hhere] using ih hss h
          · rw [follow_down hhere (Ne.symm hs)] at h
            split at h
            · cases h
            · split at h
              · cases h
              · rename_i d hget
                obtain ⟨d', rest, hplace, hdescend⟩ := ih hss h
                refine ⟨d', rest, hplace, ?_⟩
                simp only [List.filter_cons, Path.not_passed_over hhere, if_true, Entry.descend,
                  Entry.entries]
                rw [hget]
                exact hdescend

/-- Where names other than `..` lead does not depend on what is above. -/
theorem follow_above {ss : List String} :
    ∀ {e : Entry} (above above' : List Entry), ".." ∉ ss →
      (follow (e :: above) ss).map List.head? = (follow (e :: above') ss).map List.head? := by
  induction ss with
  | nil =>
      intro e above above' _
      rfl
  | cons s ss ih =>
      intro e above above' hup
      simp only [List.mem_cons, not_or] at hup
      obtain ⟨hs, hss⟩ := hup
      cases e with
      | file text => rfl
      | directory es =>
          by_cases hhere : s = "" ∨ s = "."
          · rw [follow_here hhere, follow_here hhere]
            exact ih above above' hss
          · rw [follow_down hhere (Ne.symm hs), follow_down hhere (Ne.symm hs)]
            split
            · rfl
            · split
              · rfl
              · exact ih _ _ hss

/-! ## Finding -/

/-- Why the text of a path leads nowhere, whatever there is. -/
def fault? (path : String) : Option Fault :=
  if path.isEmpty then some .missing
  else if path.toList.contains '\x00' then some .endMark
  else if pathLimit < path.utf8ByteSize then some .nameTooLong
  else none

theorem fault?_eq_none_iff {path : String} :
    fault? path = none ↔
      path ≠ "" ∧ '\x00' ∉ path.toList ∧ path.utf8ByteSize ≤ pathLimit := by
  unfold fault?
  by_cases hempty : path = ""
  · simp [hempty]
  · by_cases hmark : '\x00' ∈ path.toList
    · simp [hempty, hmark]
    · by_cases hlong : pathLimit < path.utf8ByteSize
      · simp [hempty, hmark, hlong]
      · simpa [hempty, hmark, hlong] using Nat.le_of_not_lt hlong

/-- The names that a path stands for, from the top of a picture on. -/
def way? (f : Files) (path : String) : Option (List String) :=
  match f.below? path with
  | some rest => some (Path.segments rest)
  | none => if Path.isAbsolute path then none else some (f.cwd ++ Path.segments path)

/-- The entry at a place. -/
def entryAt (place : List Entry) : Except Fault Entry := place.head?.elim (.error .missing) .ok

theorem entryAt_congr {x y : Except Fault (List Entry)}
    (h : x.map List.head? = y.map List.head?) : x >>= entryAt = y >>= entryAt := by
  cases x <;> cases y <;> simp_all [Except.map, bind, Except.bind, entryAt]

theorem entryAt_eq_ok {place : List Entry} {e : Entry} :
    entryAt place = .ok e ↔ place.head? = some e := by
  unfold entryAt
  cases place.head? <;> simp

theorem find_eq (f : Files) (path : String) :
    f.find path =
      match fault? path with
      | some fault => .error fault
      | none =>
        match f.way? path with
        | none => .error .missing
        | some ss => follow [f.top] ss >>= entryAt := by
  unfold find fault? way?
  by_cases hempty : path.isEmpty = true
  · simp only [hempty, if_true]
    rfl
  · by_cases hmark : path.toList.contains '\x00' = true
    · simp only [hempty, hmark, if_true, if_false, Bool.false_eq_true]
      rfl
    · by_cases hlong : pathLimit < path.utf8ByteSize
      · simp only [hempty, hmark, hlong, if_true, if_false, Bool.false_eq_true]
        rfl
      · simp only [hempty, hmark, hlong, if_false, Bool.false_eq_true]
        cases f.below? path with
        | some rest => exact bind_congr fun place => by cases place <;> rfl
        | none =>
            by_cases habs : Path.isAbsolute path = true
            · simp only [habs, if_true]
              rfl
            · simp only [habs, if_false, Bool.false_eq_true]
              exact bind_congr fun place => by cases place <;> rfl

/-! ## Paths below a directory -/

/-- A picture of a part of the files shows nothing but what is below a directory. -/
structure Within (f : Files) (dir : String) : Prop where
  isPart : f.root ≠ ""
  sameStart : Path.isAbsolute dir = Path.isAbsolute f.root
  below : (Path.join dir "").toList <+: f.root.toList

variable {f : Files} {dir path : String}

theorem below?_of_append {rest : String} (h : path.toList = f.root.toList ++ '/' :: rest.toList) :
    f.below? path = some rest := by
  have hne : path ≠ f.root := by
    rintro rfl
    simpa using congrArg List.length h
  have hprefix : (f.root ++ "/").toList.isPrefixOf path.toList = true := by
    rw [List.isPrefixOf_iff_prefix, h]
    exact ⟨rest.toList, by simp [String.toList_append]⟩
  have hdrop : path.toList.drop (f.root.length + 1) = rest.toList := by
    rw [h, ← String.length_toList, ← List.drop_drop, List.drop_left]
    rfl
  rw [below?, if_neg hne, if_pos hprefix, hdrop, String.ofList_toList]

theorem below?_eq_none_or (f : Files) (path : String) :
    f.below? path = none ∨ path = f.root ∨ f.root.toList ++ ['/'] <+: path.toList := by
  by_cases hroot : path = f.root
  · exact .inr (.inl hroot)
  · by_cases hprefix : (f.root ++ "/").toList.isPrefixOf path.toList = true
    · rw [List.isPrefixOf_iff_prefix, String.toList_append] at hprefix
      exact .inr (.inr hprefix)
    · rw [below?, if_neg hroot, if_neg hprefix]
      exact .inl rfl

/-- A path below a directory that is not itself in the picture is not given by the path of the
picture either, unless the directory is above all that is shown. -/
theorem below?_join_eq_none (hwithin : ¬ f.Within dir) (habs : Path.isAbsolute path = false)
    (hne : Path.join dir path ≠ "")
    (hdir : ¬ f.root.toList ++ ['/'] <+: (Path.join dir "").toList) :
    f.below? (Path.join dir path) = none := by
  have hjoin := Path.toList_join habs dir
  rcases below?_eq_none_or f (Path.join dir path) with h | h
  · exact h
  · exfalso
    have hshown : f.root.toList <+: (Path.join dir path).toList := by
      rcases h with h | h
      · exact h ▸ List.prefix_rfl
      · exact (List.prefix_append _ _).trans h
    have hpart : f.root ≠ "" := by
      intro hroot
      rw [hroot] at h hdir
      rcases h with h | h
      · exact hne h
      · -- A slash at the start of the path is one at the start of the directory.
        rw [hjoin] at h
        cases hd : (Path.join dir "").toList with
        | nil =>
            rw [hd, List.nil_append] at h
            obtain ⟨rest, hrest⟩ := h
            rw [Path.isAbsolute, ← hrest] at habs
            cases habs
        | cons c cs =>
            rw [hd] at h hdir
            refine hdir ?_
            simpa using h
    refine hwithin ⟨hpart, ?_, ?_⟩
    · rw [← Path.isAbsolute_join habs dir]
      obtain ⟨rest, hrest⟩ := hshown
      rw [Path.isAbsolute, Path.isAbsolute, ← hrest]
      cases hroot : f.root.toList with
      | nil => exact absurd (String.toList_eq_nil_iff.1 hroot) hpart
      | cons c cs => rfl
    · have hpre : (Path.join dir "").toList <+: (Path.join dir path).toList :=
        hjoin ▸ List.prefix_append _ _
      rcases h with h | h
      · rwa [h] at hpre
      · rcases List.prefix_or_prefix_of_prefix h hpre with h | h
        · exact absurd h hdir
        · rcases List.prefix_concat_iff.1 h with h | h
          · exact absurd (h ▸ List.prefix_rfl) hdir
          · exact h

/-- On the way to what is below a directory in the picture are the names that lead there. -/
theorem exists_way?_join_of_shown (hdir : f.root.toList ++ ['/'] <+: (Path.join dir "").toList) :
    ∃ ss, ∀ path, Path.isAbsolute path = false →
      f.way? (Path.join dir path) = some (ss ++ Path.segments path) := by
  obtain ⟨rest, hrest⟩ := hdir
  -- What the picture shows of the directory is nothing or ends with a slash.
  have hend : rest = [] ∨ ∃ d, rest = d ++ ['/'] := by
    rcases List.eq_nil_or_concat rest with h | ⟨d, c, h⟩
    · exact .inl h
    · refine .inr ⟨d, ?_⟩
      rw [List.concat_eq_append] at h
      subst h
      rcases Path.join_cases dir with ⟨-, hjoin⟩ | ⟨-, d', hjoin, -⟩
      · simp [hjoin] at hrest
      · rw [hjoin, String.toList_append, ← List.append_assoc] at hrest
        obtain rfl : c = '/' := List.singleton_inj.1 (List.append_inj_right' hrest rfl)
        rfl
  have hway : ∀ path, Path.isAbsolute path = false →
      f.below? (Path.join dir path) = some (String.ofList (rest ++ path.toList)) := by
    intro path habs
    refine below?_of_append ?_
    rw [Path.toList_join habs, ← hrest]
    simp
  rcases hend with rfl | ⟨d, rfl⟩
  · refine ⟨[], fun path habs => ?_⟩
    simp [way?, hway path habs]
  · refine ⟨Path.segments (String.ofList d), fun path habs => ?_⟩
    have htext : String.ofList (d ++ ['/'] ++ path.toList) = String.ofList d ++ "/" ++ path := by
      apply String.toList_injective
      simp [String.toList_append]
    rw [way?, hway path habs, htext]
    exact congrArg some (Path.segments_slash _ _)

/-- The way to what is below a directory outside the picture starts in the current directory, or
there is none. -/
theorem exists_way?_join_of_not_shown (hwithin : ¬ f.Within dir)
    (hdir : ¬ f.root.toList ++ ['/'] <+: (Path.join dir "").toList) :
    ∃ start : Option (List String), ∀ path, Path.isAbsolute path = false →
      Path.join dir path ≠ "" →
        f.way? (Path.join dir path) = start.map (· ++ Path.segments path) := by
  rcases Path.join_cases dir with ⟨hempty, hjoin⟩ | ⟨-, d, hjoin, -⟩
  · refine ⟨some f.cwd, fun path habs hne => ?_⟩
    have hrelative : Path.isAbsolute dir = false := by
      rw [hempty]
      rfl
    rw [way?, below?_join_eq_none hwithin habs hne hdir, Path.isAbsolute_join habs, hrelative,
      Path.join_eq habs, hjoin, String.empty_append]
    rfl
  · refine ⟨if Path.isAbsolute dir then none else some (f.cwd ++ Path.segments d),
      fun path habs hne => ?_⟩
    rw [way?, below?_join_eq_none hwithin habs hne hdir, Path.isAbsolute_join habs,
      Path.join_eq habs, hjoin, Path.segments_slash]
    cases Path.isAbsolute dir with
    | true => rfl
    | false => simp

/-- The names on the way to a directory are those on the way to any path below it. -/
theorem exists_way?_join (hwithin : ¬ f.Within dir) :
    ∃ start : Option (List String), ∀ path, Path.isAbsolute path = false →
      Path.join dir path ≠ "" →
        f.way? (Path.join dir path) = start.map (· ++ Path.segments path) := by
  by_cases hdir : f.root.toList ++ ['/'] <+: (Path.join dir "").toList
  · obtain ⟨ss, hss⟩ := exists_way?_join_of_shown hdir
    exact ⟨some ss, fun path habs _ => hss path habs⟩
  · exact exists_way?_join_of_not_shown hwithin hdir

/-- What a path below a directory names is found from one place, whatever the path. -/
theorem exists_find_join (hwithin : ¬ f.Within dir) :
    ∃ place : Except Fault (List Entry), ∀ path, Path.isAbsolute path = false →
      f.find (Path.join dir path) =
        match fault? (Path.join dir path) with
        | some fault => .error fault
        | none => place >>= fun p => follow p (Path.segments path) >>= entryAt := by
  obtain ⟨start, hstart⟩ := exists_way?_join hwithin
  refine ⟨start.elim (.error .missing) (follow [f.top]), fun path habs => ?_⟩
  rw [find_eq]
  cases hfault : fault? (Path.join dir path) with
  | some fault => rfl
  | none =>
      have hne : Path.join dir path ≠ "" := by
        intro hempty
        rw [hempty] at hfault
        cases hfault
      rw [hstart path habs hne]
      cases start with
      | none => rfl
      | some ss =>
          simp only [Option.map_some, Option.elim_some, follow_append]
          cases follow [f.top] ss <;> rfl

/-- Below what is no directory nothing is found. -/
theorem exists_directory {p : List Entry} {e : Entry}
    (h : follow p (Path.segments path) >>= entryAt = .ok e) :
    ∃ es above, p = .directory es :: above := by
  have hne := Path.segments_ne_nil path
  cases p with
  | nil =>
      obtain ⟨s, ss, hss⟩ := List.exists_cons_of_ne_nil hne
      rw [hss] at h
      cases h
  | cons e above =>
      cases e with
      | file text =>
          rw [follow_file text above hne] at h
          cases h
      | directory es => exact ⟨es, above, rfl⟩

/-- If the text of a path below a directory leads somewhere, so does that of the directory. -/
theorem fault?_join_here (habs : Path.isAbsolute path = false) (hne : path ≠ "")
    (h : fault? (Path.join dir path) = none) : fault? (Path.join dir ".") = none := by
  have hhere : Path.isAbsolute "." = false := rfl
  have hsize : 0 < path.utf8ByteSize :=
    Nat.pos_of_ne_zero (mt String.utf8ByteSize_eq_zero_iff.1 hne)
  have hpoint : ".".utf8ByteSize = 1 := by decide
  obtain ⟨-, hmark, hlong⟩ := fault?_eq_none_iff.1 h
  rw [Path.join_eq habs] at hmark hlong
  rw [fault?_eq_none_iff, Path.join_eq hhere]
  refine ⟨?_, ?_, ?_⟩
  · intro hempty
    have := congrArg String.utf8ByteSize hempty
    rw [String.utf8ByteSize_append, hpoint] at this
    exact Nat.succ_ne_zero _ this
  · rw [String.toList_append, List.mem_append, not_or] at hmark ⊢
    exact ⟨hmark.1, by decide⟩
  · rw [String.utf8ByteSize_append] at hlong ⊢
    omega

/-- What a path without `..` names below a directory that the picture shows is decided by that
directory. -/
theorem find_join {start : Entry} (hwithin : ¬ f.Within dir)
    (hstart : f.find (Path.join dir ".") = .ok start) (habs : Path.isAbsolute path = false)
    (hup : ".." ∉ Path.segments path) :
    f.find (Path.join dir path) =
      match fault? (Path.join dir path) with
      | some fault => .error fault
      | none => follow [start] (Path.segments path) >>= entryAt := by
  obtain ⟨place, hplace⟩ := exists_find_join hwithin
  rw [hplace "." rfl] at hstart
  rw [hplace path habs]
  cases hfault : fault? (Path.join dir path) with
  | some fault => rfl
  | none =>
      split at hstart
      · cases hstart
      · obtain ⟨p, rfl, hhere⟩ := Fallible.bind_eq_ok.1 hstart
        obtain ⟨es, above, rfl⟩ := exists_directory hhere
        obtain rfl : Entry.directory es = start := Except.ok.inj hhere
        exact entryAt_congr (follow_above above [] hup)

/-- What a path without `..` names below a directory is the same in all pictures that show the
same directory there. -/
theorem find_join_congr {f' : Files} {start : Entry} (hwithin : ¬ f.Within dir)
    (hwithin' : ¬ f'.Within dir) (hstart : f.find (Path.join dir ".") = .ok start)
    (hstart' : f'.find (Path.join dir ".") = .ok start) (habs : Path.isAbsolute path = false)
    (hup : ".." ∉ Path.segments path) :
    f.find (Path.join dir path) = f'.find (Path.join dir path) := by
  rw [find_join hwithin hstart habs hup, find_join hwithin' hstart' habs hup]

/-- A file that a path without `..` names below a directory is reached from there by the names
on the path. -/
theorem descend_of_find_join {text : Option String} (hwithin : ¬ f.Within dir)
    (habs : Path.isAbsolute path = false) (hup : ".." ∉ Path.segments path)
    (h : f.find (Path.join dir path) = .ok (.file text)) :
    ∃ start, f.find (Path.join dir ".") = .ok start ∧
      start.descend (Path.names path) = some (.file text) := by
  obtain ⟨place, hplace⟩ := exists_find_join hwithin
  rw [hplace path habs] at h
  cases hfault : fault? (Path.join dir path) with
  | some fault =>
      rw [hfault] at h
      cases h
  | none =>
      rw [hfault] at h
      obtain ⟨p, rfl, hfound⟩ := Fallible.bind_eq_ok.1 h
      obtain ⟨es, above, rfl⟩ := exists_directory hfound
      refine ⟨.directory es, ?_, ?_⟩
      · have hne : path ≠ "" := by
          rintro rfl
          cases hfound
        rw [hplace "." rfl, fault?_join_here habs hne hfault]
        rfl
      · obtain ⟨q, hq, hentry⟩ := Fallible.bind_eq_ok.1 hfound
        obtain ⟨d, rest, rfl, hdescend⟩ := follow_below hup hq
        obtain rfl : d = .file text := Option.some.inj (entryAt_eq_ok.1 hentry)
        exact hdescend

end Files

end PagePress
