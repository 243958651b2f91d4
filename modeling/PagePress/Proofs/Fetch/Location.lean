import PagePress.Fetch.Location
import PagePress.Proofs.Fallible
import PagePress.Proofs.Files.Path

/-!
# Locations — requests that name a document, and the parts of its address

A request names a document by an owner, a repository, a branch and a path.  A parameter that is
empty should count as one that is not there.

* `ofContext_cases`: a request is refused by the first required parameter that is missing, and
  else it leads to the location that its parameters give;
* `urlParts_trim`: the address is written with exactly one slash between its parts;
* `location_resolves`: no part of the address is empty, and an empty branch counts as none,
  exactly if the branch is not given as an empty text and the path has more than slashes to it;
* `emptyParts_addressed`: either condition matters.
-/

namespace PagePress

namespace Fetch

open Files.Path (isAbsolute_trimLeading trimLeading trimTrailing)
open Pipeline (Context RawParams)

/-! ## Parameters -/

/-- A parameter as far as it says something. -/
def given (v : Option String) : Option String := v.filter (· ≠ "")

theorem given_eq_some_iff {v : Option String} {s : String} :
    given v = some s ↔ v = some s ∧ s ≠ "" := by
  simp [given, Option.filter_eq_some_iff]

theorem given_of_ne_empty {v : Option String} (h : v ≠ some "") : given v = v := by
  cases v with
  | none => rfl
  | some s => exact given_eq_some_iff.2 ⟨rfl, by simpa using h⟩

theorem getD_given {v : Option String} {s : String} (hs : s ≠ "") :
    (given v).getD s ≠ "" := by
  cases hv : given v with
  | none => exact hs
  | some t => exact (given_eq_some_iff.1 hv).2

/-- The required parameters, in the order in which they are asked for. -/
def Required.all : List Required := [.owner, .repo, .path]

/-- What a request says for a required parameter. -/
def Required.value (params : RawParams) : Required → Option String
  | .owner => params.owner
  | .repo => params.repo
  | .path => params.path

/-- The first required parameter that a request does not say. -/
def firstMissing? (params : RawParams) : Option Required :=
  Required.all.find? fun r => (given (r.value params)).isNone

namespace Location

theorem required_eq (p : Required) (v : Option String) :
    required p v = (given v).elim (.error (.missingParam p.name)) .ok := by
  unfold required given
  cases v.filter (· ≠ "") <;> rfl

/-- The location that the parameters of a request give. -/
structure Located (ctx : Context) (l : Location) : Prop where
  rawRoot : l.rawRoot = (ctx.secrets.get? Pipeline.rawRootKey).getD defaultRawRoot
  owner : given ctx.params.owner = some l.owner
  repo : given ctx.params.repo = some l.repo
  ref : l.ref = ctx.params.ref.getD defaultRef
  path : given ctx.params.path = some l.path

/-- A request is refused by the first required parameter that is missing or empty. -/
theorem ofContext_cases (ctx : Context) :
    match firstMissing? ctx.params with
    | some r => ofContext ctx = .error (.missingParam r.name)
    | none => ∃ l, ofContext ctx = .ok l ∧ Located ctx l := by
  unfold ofContext firstMissing? Required.all
  simp only [required_eq, List.find?_cons, Required.value]
  cases howner : given ctx.params.owner with
  | none => rfl
  | some owner =>
      cases hrepo : given ctx.params.repo with
      | none => rfl
      | some repo =>
          cases hpath : given ctx.params.path with
          | none => rfl
          | some path => exact ⟨_, rfl, rfl, howner, hrepo, rfl, hpath⟩

theorem located_of_ofContext {ctx : Context} {l : Location} (h : ofContext ctx = .ok l) :
    Located ctx l := by
  have hcases := ofContext_cases ctx
  rw [h] at hcases
  split at hcases
  · cases hcases
  · obtain ⟨l', hl, hlocated⟩ := hcases
    cases hl
    exact hlocated

theorem ofContext_of_located {ctx : Context} {l : Location} (h : Located ctx l) :
    ofContext ctx = .ok l := by
  obtain ⟨rawRoot, owner, repo, ref, path⟩ := l
  obtain ⟨rfl, howner, hrepo, rfl, hpath⟩ := h
  unfold ofContext
  simp only [required_eq, howner, hrepo, hpath]
  rfl

theorem ofContext_eq_error_iff {ctx : Context} {e : FetchError} :
    ofContext ctx = .error e ↔
      ∃ r, firstMissing? ctx.params = some r ∧ e = .missingParam r.name := by
  have hcases := ofContext_cases ctx
  cases hmissing : firstMissing? ctx.params with
  | some r =>
      simp only [hmissing] at hcases
      simp [hcases, eq_comm]
  | none =>
      simp only [hmissing] at hcases
      obtain ⟨l, hl, -⟩ := hcases
      simp [hl]

/-! ## Addresses -/

/-- The parts of the address of a document, between which slashes are written. -/
structure UrlParts (l : Location) (root path : String) : Prop where
  url : l.url = root ++ "/" ++ l.owner ++ "/" ++ l.repo ++ "/" ++ l.ref ++ "/" ++ path
  root_end : root.toList.getLast? ≠ some '/'
  root_slashes : ∃ n, l.rawRoot.toList = root.toList ++ List.replicate n '/'
  path_start : path.toList.head? ≠ some '/'
  path_slashes : ∃ n, l.path.toList = List.replicate n '/' ++ path.toList

theorem urlParts_trim (l : Location) :
    UrlParts l (trimTrailing l.rawRoot) (trimLeading l.path) where
  url := by
    rw [url]
    apply String.toList_injective
    simp [String.toList_append]
  root_end := Files.Path.getLast?_trimTrailing_ne l.rawRoot
  root_slashes := Files.Path.toList_trimTrailing l.rawRoot
  path_start := by simpa [Files.Path.isAbsolute] using isAbsolute_trimLeading l.path
  path_slashes := Files.Path.toList_trimLeading l.path

/-- No part of an address is empty, and the branch is the usual one if the request gives none. -/
structure Entire (ctx : Context) (l : Location) (path : String) : Prop where
  ref : l.ref = (given ctx.params.ref).getD defaultRef
  parts : ∀ part ∈ [l.owner, l.repo, l.ref, path], part ≠ ""

theorem entire_iff {ctx : Context} {l : Location} (h : Located ctx l) :
    Entire ctx l (trimLeading l.path) ↔
      ctx.params.ref ≠ some "" ∧ ∃ c ∈ l.path.toList, c ≠ '/' := by
  have hpath : trimLeading l.path ≠ "" ↔ ∃ c ∈ l.path.toList, c ≠ '/' := by
    rw [Ne, Files.Path.trimLeading_eq_empty_iff]
    simp
  rw [← hpath]
  constructor
  · intro hentire
    refine ⟨?_, hentire.parts _ (by simp)⟩
    intro hempty
    -- An empty branch is kept as it is, so that it would be an empty part.
    refine hentire.parts l.ref (by simp) ?_
    rw [h.ref, hempty]
    rfl
  · rintro ⟨hempty, hne⟩
    have href : l.ref = (given ctx.params.ref).getD defaultRef := by
      rw [h.ref, given_of_ne_empty hempty]
    refine ⟨href, ?_⟩
    simp only [List.mem_cons, List.not_mem_nil, or_false, forall_eq_or_imp, forall_eq]
    exact ⟨(given_eq_some_iff.1 h.owner).2, (given_eq_some_iff.1 h.repo).2,
      href ▸ getD_given (by decide), hne⟩

/-! ## Locations of requests -/

/-- A request is refused by its first missing parameter, or leads to a location whose address has
one slash between its parts; no part is empty, and an empty branch counts as none, exactly if the
branch is not given as an empty text and the path is not all slashes. -/
theorem location_resolves (ctx : Context) :
    match firstMissing? ctx.params with
    | some r => ofContext ctx = .error (.missingParam r.name)
    | none => ∃ l, ofContext ctx = .ok l ∧ Located ctx l ∧
        UrlParts l (trimTrailing l.rawRoot) (trimLeading l.path) ∧
        (Entire ctx l (trimLeading l.path) ↔
          ctx.params.ref ≠ some "" ∧ ∃ c ∈ l.path.toList, c ≠ '/') := by
  have hcases := ofContext_cases ctx
  cases hmissing : firstMissing? ctx.params with
  | some r => simpa only [hmissing] using hcases
  | none =>
      simp only [hmissing] at hcases
      obtain ⟨l, hl, hlocated⟩ := hcases
      exact ⟨l, hl, hlocated, urlParts_trim l, entire_iff hlocated⟩

/-- A request for a document of the repository `docs` of `adobe`. -/
def docsRequest (ref : Option String) (path : String) : Context :=
  ⟨{ RawParams.empty with owner := some "adobe", repo := some "docs", ref, path := some path },
    .empty⟩

/-- A branch that is empty is kept, and a path of slashes is asked for: either address has an
empty part. -/
theorem emptyParts_addressed :
    (∃ l, ofContext (docsRequest (some "") "/index.md") = .ok l ∧
      l.url = "https://raw.githubusercontent.com/adobe/docs//index.md" ∧
      ¬ Entire (docsRequest (some "") "/index.md") l (trimLeading l.path)) ∧
    ∃ l, ofContext (docsRequest none "/") = .ok l ∧
      l.url = "https://raw.githubusercontent.com/adobe/docs/master/" ∧
      ¬ Entire (docsRequest none "/") l (trimLeading l.path) := by
  refine ⟨⟨⟨defaultRawRoot, "adobe", "docs", "", "/index.md"⟩, rfl, by decide +kernel, ?_⟩,
    ⟨⟨defaultRawRoot, "adobe", "docs", defaultRef, "/"⟩, rfl, by decide +kernel, ?_⟩⟩
  · intro h
    exact h.parts "" (by simp) rfl
  · intro h
    exact h.parts (trimLeading "/") (by simp) (by decide +kernel)

end Location

end Fetch

end PagePress
