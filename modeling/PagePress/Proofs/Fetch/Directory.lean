import PagePress.Fetch.Source
import PagePress.Proofs.Files.Tree

/-!
# Directories — a request that stays below the root

A directory with documents is asked for a path that comes from a request, whatever it is.

* `resolve?_eq_none_iff`: a request is refused exactly if it has a segment `..`;
* `stepsDown_of_resolve?`: any other request is answered from the path that goes on from the root
  by steps down alone;
* `directory_confined`: nothing but what is below the root is ever read.
-/

namespace PagePress

namespace Fetch

open Files (Entry)
open Files.Path (Component Enclosed Named components isAbsolute_trimLeading join names segments
  trimLeading)

variable {root path file : String}

/-! ## Paths of requests -/

/-- The path of what a request reaches from a directory by steps down alone. -/
structure StepsDown (root path file : String) : Prop where
  /-- The path goes on from that of the root, which ends with a slash unless it is empty, with
  the request, which loses the slashes in front. -/
  text : file = join root "" ++ trimLeading path
  /-- Below a root without a name, a point in front of the request is a step too. -/
  steps : ∃ start, components file = start ++ (names path).map Component.down ∧
    (start = components root ∨ root = "" ∧ start = [.here])
  named : ∀ s ∈ names path, Named s

theorem resolve?_eq (root path : String) :
    resolve? root path =
      if ".." ∈ segments path then none else some (join root (trimLeading path)) := by
  have hmem : ".." ∈ segments (trimLeading path) ↔ ".." ∈ segments path :=
    Files.Path.mem_segments_trimLeading (by decide)
  have hstays := Files.Path.staysBelow_iff (isAbsolute_trimLeading path)
  unfold resolve?
  by_cases hup : ".." ∈ segments path
  · rw [if_pos hup, if_neg (mt hstays.1 (not_not_intro (hmem.2 hup)))]
  · rw [if_neg hup, if_pos (hstays.2 (mt hmem.1 hup))]

/-- A request is refused exactly if slashes or its ends enclose `..`. -/
theorem resolve?_eq_none_iff :
    resolve? root path = none ↔ Enclosed "..".toList path.toList := by
  rw [resolve?_eq, ← Files.Path.mem_segments_iff]
  by_cases hup : ".." ∈ segments path <;> simp [hup]

theorem resolve?_eq_some_iff :
    resolve? root path = some file ↔
      ".." ∉ segments path ∧ file = join root (trimLeading path) := by
  rw [resolve?_eq]
  by_cases hup : ".." ∈ segments path <;> simp [hup, eq_comm]

theorem up_not_mem_trimLeading (hup : ".." ∉ segments path) :
    ".." ∉ segments (trimLeading path) :=
  mt (Files.Path.mem_segments_trimLeading (by decide)).1 hup

/-- A path without `..` goes on from the root by steps down. -/
theorem exists_components_join (root : String) (hup : ".." ∉ segments path) :
    ∃ start, components (join root (trimLeading path)) =
        start ++ (names path).map Component.down ∧
      (start = components root ∨ root = "" ∧ start = [.here]) := by
  have habs := isAbsolute_trimLeading path
  have hdown : (segments (trimLeading path)).filterMap Component.ofSegment? =
      (names path).map Component.down := by
    rw [Files.Path.filterMap_ofSegment? (up_not_mem_trimLeading hup), Files.Path.names_trimLeading]
  by_cases hroot : root = ""
  · rw [Files.Path.join_eq habs, hroot, ← hdown]
    by_cases hhere : (segments (trimLeading path)).head? = some "."
    · exact ⟨[.here], by simp [components, habs, hhere, join], .inr ⟨rfl, rfl⟩⟩
    · exact ⟨[], by simp [components, habs, hhere, join], .inl rfl⟩
  · exact ⟨_, by rw [Files.Path.components_join hroot habs, hdown], .inl rfl⟩

theorem stepsDown_of_resolve? (h : resolve? root path = some file) : StepsDown root path file := by
  obtain ⟨hup, rfl⟩ := resolve?_eq_some_iff.1 h
  exact ⟨Files.Path.join_eq (isAbsolute_trimLeading path) root, exists_components_join root hup,
    fun s hs => Files.Path.named_of_mem_names hup hs⟩

/-! ## Reading -/

theorem directory_read (files : Files) (root : String) (l : Location) :
    (Source.directory files root).read l = Source.readBelow files root l.path := by
  simp only [Source.directory]

/-- A request with a step up is refused before anything is looked at. -/
theorem readBelow_refused (files : Files) (h : resolve? root path = none) :
    Source.readBelow files root path = .error (.notFound path) := by
  rw [Source.readBelow, h]

/-- What is read is the text of the file at the resolved path. -/
theorem find_of_readBelow {files : Files} {text : String}
    (h : Source.readBelow files root path = .ok text) :
    ∃ file, resolve? root path = some file ∧ files.find file = .ok (.file (some text)) := by
  unfold Source.readBelow at h
  cases hfile : resolve? root path with
  | none =>
      rw [hfile] at h
      cases h
  | some file =>
      rw [hfile] at h
      dsimp only at h
      refine ⟨file, rfl, ?_⟩
      cases hread : files.readText file with
      | error fault =>
          rw [hread] at h
          cases fault <;> cases h
      | ok read =>
          rw [hread] at h
          obtain rfl : read = text := Except.ok.inj h
          obtain ⟨e, hfind, hread⟩ := Fallible.bind_eq_ok.1 hread
          rw [hfind]
          split at hread
          · cases hread
          · cases hread
            rfl
          · cases hread

theorem readBelow_congr {files other : Files}
    (h : ∀ file, resolve? root path = some file → files.find file = other.find file) :
    Source.readBelow files root path = Source.readBelow other root path := by
  unfold Source.readBelow
  cases hfile : resolve? root path with
  | none => rfl
  | some file => simp only [Files.readText, h file hfile]

/-- Whatever a request asks of a directory, it does not leave the root.  It is refused exactly if
it has a segment `..`, as a document that is not there and whatever the files are, and else it
leads from the root by steps down alone.  So what is read is below the root in any tree of files:
it is reached from the root by the names in the request, and two trees with the same directory
there give the same answers.  A picture of a part of the files that is itself below the root shows
nothing else, to be sure. -/
theorem directory_confined (files : Files) (root : String) (l : Location) :
    (resolve? root l.path = none ↔ Enclosed "..".toList l.path.toList) ∧
    (∀ file, resolve? root l.path = some file → StepsDown root l.path file) ∧
    (∀ text, (Source.directory files root).read l = .ok text → files.Within root ∨
      ∃ start, files.find (join root ".") = .ok start ∧
        start.descend (names l.path) = some (.file (some text))) ∧
    (∀ (other : Files) (start : Entry), ¬ files.Within root → ¬ other.Within root →
      files.find (join root ".") = .ok start → other.find (join root ".") = .ok start →
        (Source.directory other root).read l = (Source.directory files root).read l) ∧
    (Enclosed "..".toList l.path.toList →
      (Source.directory files root).read l = .error (.notFound l.path) ∧
        (FetchError.notFound l.path).status = 404) := by
  simp only [directory_read]
  refine ⟨resolve?_eq_none_iff, fun file => stepsDown_of_resolve?, ?_, ?_, ?_⟩
  · -- A document that is read was found at the resolved path, which the root leads to.
    intro text htext
    by_cases hwithin : files.Within root
    · exact .inl hwithin
    · obtain ⟨file, hfile, hfind⟩ := find_of_readBelow htext
      obtain ⟨hup, rfl⟩ := resolve?_eq_some_iff.1 hfile
      rw [← Files.Path.names_trimLeading]
      exact .inr (Files.descend_of_find_join hwithin (isAbsolute_trimLeading l.path)
        (up_not_mem_trimLeading hup) hfind)
  · -- Both trees are looked at in one place only, and there they agree.
    intro other start hwithin hwithin' hstart hstart'
    refine readBelow_congr fun file hfile => ?_
    obtain ⟨hup, rfl⟩ := resolve?_eq_some_iff.1 hfile
    exact Files.find_join_congr hwithin' hwithin hstart' hstart
      (isAbsolute_trimLeading l.path) (up_not_mem_trimLeading hup)
  · intro hup
    exact ⟨readBelow_refused files (resolve?_eq_none_iff.2 hup), rfl⟩

example :
    resolve? "/srv/docs" "//guide/./a..b" = some "/srv/docs/guide/./a..b" ∧
      resolve? "/srv/docs" "guide/.." = none := by
  decide +kernel

end Fetch

end PagePress
