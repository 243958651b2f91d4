import PagePress.Proofs.Config.Settings
import PagePress.Proofs.Fetch.Location

/-!
# The address of repositories — which one is in force, and whether it was checked

The address can be given on the command line, in the settings and among the secrets.  The first
two are checked; a secret that takes their place is not.

* `isSecretKey_iff` and `isWebAddress_iff` say what the checks look for;
* `exists_base_of_load`: loading keeps the settings that were found, and the command line may put
  another address in place of theirs;
* `rawRoot_in_force`: the address that documents are fetched from is the first one given, and it
  is one of the web exactly if it is not a secret that is none.
-/

namespace PagePress

namespace Config

open Pipeline (rawRootKey)

/-! ## Keys and addresses -/

/-- A text of one or more capitals, digits and low lines. -/
structure KeyText (s : String) : Prop where
  ne_empty : s ≠ ""
  chars : ∀ c ∈ s.toList, 'A' ≤ c ∧ c ≤ 'Z' ∨ '0' ≤ c ∧ c ≤ '9' ∨ c = '_'

theorem isSecretKey_iff {s : String} : isSecretKey s = true ↔ KeyText s := by
  have hchars : s.toList.all isKeyChar = true ↔
      ∀ c ∈ s.toList, 'A' ≤ c ∧ c ≤ 'Z' ∨ '0' ≤ c ∧ c ≤ '9' ∨ c = '_' := by
    simp [isKeyChar, or_assoc]
  rw [isSecretKey, Bool.and_eq_true, hchars]
  constructor
  · rintro ⟨hne, hall⟩
    exact ⟨by simpa using hne, hall⟩
  · rintro ⟨hne, hall⟩
    exact ⟨by simpa using hne, hall⟩

/-- An address that a web server is asked for. -/
def OfWeb (s : String) : Prop := ∃ rest, s = "http://" ++ rest ∨ s = "https://" ++ rest

theorem isPrefixOf_toList_iff {p s : String} :
    p.toList.isPrefixOf s.toList = true ↔ ∃ rest, s = p ++ rest := by
  rw [List.isPrefixOf_iff_prefix]
  constructor
  · rintro ⟨cs, hcs⟩
    refine ⟨String.ofList cs, String.toList_injective ?_⟩
    rw [String.toList_append, String.toList_ofList, hcs]
  · rintro ⟨rest, rfl⟩
    rw [String.toList_append]
    exact List.prefix_append _ _

theorem isWebAddress_iff {s : String} : isWebAddress s = true ↔ OfWeb s := by
  rw [isWebAddress, Bool.or_eq_true, isPrefixOf_toList_iff, isPrefixOf_toList_iff, ← exists_or,
    OfWeb]

/-! ## Addresses by source -/

variable {files : Files} {env : Environment} {path : Option String}
  {overrides : Option Overrides} {c : Config}

/-- The address of the command line. -/
def Overrides.root (overrides : Option Overrides) : Option String := overrides.bind (·.rawRoot)

/-- Settings in force have the secrets that were found, and the address that was found unless the
command line gives another one. -/
theorem exists_base_of_load (h : load files env path overrides = .ok c) :
    ∃ found, base files env path = .ok found ∧ c.secrets = found.secrets ∧
      c.rawRoot = (Overrides.root overrides).or found.rawRoot := by
  unfold load at h
  obtain ⟨found, hbase, h⟩ := Fallible.bind_eq_ok.1 h
  refine ⟨found, hbase, ?_⟩
  cases overrides with
  | none =>
      cases h
      exact ⟨rfl, rfl⟩
  | some o =>
      obtain ⟨u, -, h⟩ := Fallible.bind_eq_ok.1 h
      cases h
      exact ⟨rfl, rfl⟩

theorem get?_pipelineSecrets (c : Config) :
    c.pipelineSecrets.get? rawRootKey = c.rawRoot.or (c.secrets.get? rawRootKey) := by
  unfold pipelineSecrets Pipeline.Secrets.ofDict Pipeline.Secrets.get?
  cases c.rawRoot with
  | none => rfl
  | some root => simp [Dict.get?_insert]

/-- The address that counts: the one of the command line, else the one of the settings, else the
secret. -/
def rootInForce (found : Config) (overrides : Option Overrides) : Option String :=
  (Overrides.root overrides).or (found.rawRoot.or (found.secrets.get? rawRootKey))

/-- What was given for the address passed the check, except among the secrets. -/
theorem ofWeb_rootInForce_iff {found : Config}
    (hvalid : ∀ s ∈ (Overrides.root overrides).or found.rawRoot, isWebAddress s = true) :
    (∀ s ∈ rootInForce found overrides, OfWeb s) ↔
      (Overrides.root overrides = none → found.rawRoot = none →
        ∀ s ∈ found.secrets.get? rawRootKey, OfWeb s) := by
  unfold rootInForce
  rw [← Option.or_assoc]
  -- Only if neither of the checked addresses is there does the secret count.
  cases hgiven : (Overrides.root overrides).or found.rawRoot with
  | none =>
      obtain ⟨hcli, hfile⟩ := Option.or_eq_none_iff.1 hgiven
      simp [hcli, hfile]
  | some root =>
      have hroot : OfWeb root := isWebAddress_iff.1 (hvalid root hgiven)
      constructor
      · intro _ hcli hfile
        rw [hcli, hfile] at hgiven
        cases hgiven
      · rintro - s hs
        obtain rfl := Option.some.inj hs
        exact hroot

/-! ## Addresses in force -/

/-- In loaded settings every key is one of a secret and a server has some time to answer.  The
address that documents are fetched from is that of the command line, else of the settings, else
the secret; it is one of the web exactly if it is not a secret that is none. -/
theorem rawRoot_in_force (h : load files env path overrides = .ok c) :
    (∀ k ∈ c.secrets.keys, KeyText k) ∧ 1 ≤ c.timeout ∧
    ∃ found, base files env path = .ok found ∧
      c.pipelineSecrets.get? rawRootKey = rootInForce found overrides ∧
      (∀ params l, Fetch.Location.ofContext ⟨params, c.pipelineSecrets⟩ = .ok l →
        l.rawRoot = (rootInForce found overrides).getD Fetch.defaultRawRoot) ∧
      ((∀ s ∈ rootInForce found overrides, OfWeb s) ↔
        (Overrides.root overrides = none → found.rawRoot = none →
          ∀ s ∈ found.secrets.get? rawRootKey, OfWeb s)) := by
  have hvalid := valid_of_load h
  obtain ⟨found, hbase, hsecrets, hroot⟩ := exists_base_of_load h
  have hsecret : c.pipelineSecrets.get? rawRootKey = rootInForce found overrides := by
    rw [get?_pipelineSecrets, hsecrets, hroot, Option.or_assoc]
    rfl
  refine ⟨?_, Nat.pos_of_ne_zero hvalid.timeout, found, hbase, hsecret, ?_, ?_⟩
  · intro k hk
    exact isSecretKey_iff.1 (hvalid.secrets k hk)
  · intro params l hl
    rw [(Fetch.Location.located_of_ofContext hl).rawRoot, hsecret]
  · exact ofWeb_rootInForce_iff (hroot ▸ hvalid.rawRoot)

/-- Files with settings whose only address is a secret, and none of the web. -/
def mirrorFiles : Files :=
  ⟨"/srv", [], .directory [
    ("pipe.toml", .file (some "[secrets]\nREPO_RAW_ROOT = \"ftp://raw.test/\"\n"))]⟩

/-- What is found there. -/
def mirrorSettings : Config :=
  ⟨.ofList [("REPO_RAW_ROOT", "ftp://raw.test/")], none, 10, none, none, some "pipe.toml"⟩

theorem rawRoot_in_force_overridden :
    let overrides : Overrides := ⟨some "https://raw.test/", none, none⟩
    let c := mirrorSettings.override overrides
    load mirrorFiles (fun _ => none) (some "pipe.toml") (some overrides) = .ok c ∧
      1 ≤ c.timeout ∧
      ∃ found, base mirrorFiles (fun _ => none) (some "pipe.toml") = .ok found ∧
        c.pipelineSecrets.get? rawRootKey = rootInForce found (some overrides) ∧
        ∀ s ∈ rootInForce found (some overrides), OfWeb s := by
  intro overrides c
  have hload : load mirrorFiles (fun _ => none) (some "pipe.toml") (some overrides) = .ok c :=
    Fallible.eq_ok_of_toOption (by decide +kernel)
  obtain ⟨-, htimeout, found, hbase, hsecret, -, hweb⟩ := rawRoot_in_force hload
  refine ⟨hload, htimeout, found, hbase, hsecret, hweb.2 ?_⟩
  intro hnone
  cases hnone

/-- The secret is taken for the address without a check. -/
theorem mirrorSecret_unchecked :
    ∃ c, load mirrorFiles (fun _ => none) (some "pipe.toml") none = .ok c ∧
      c.pipelineSecrets.get? rawRootKey = some "ftp://raw.test/" ∧
      ¬ OfWeb "ftp://raw.test/" := by
  refine ⟨mirrorSettings, Fallible.eq_ok_of_toOption (by decide +kernel), by decide +kernel, ?_⟩
  rw [← isWebAddress_iff]
  decide +kernel

end Config

end PagePress
