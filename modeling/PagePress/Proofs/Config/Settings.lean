import PagePress.Config.Settings
import PagePress.Proofs.Dictionary
import PagePress.Proofs.Fallible

/-!
# Settings in force — what every way of loading them has checked

Settings come from a file that is given, from one that is found, or from nowhere, and the command
line may replace some of them.  Each way ends in the same check.

* `Config.Valid` says what the check asks for;
* `validate_eq_ok_iff`: the check passes exactly the valid settings;
* `valid_of_load`: settings that are loaded are valid;
* `mem_pipelineSecrets`: the secrets of a run are those of the settings, but for one key.
-/

namespace PagePress

namespace Config

/-- What is asked of settings. -/
structure Valid (c : Config) : Prop where
  secrets : ∀ k ∈ c.secrets.keys, isSecretKey k = true
  rawRoot : ∀ s ∈ c.rawRoot, isWebAddress s = true
  timeout : c.timeout ≠ 0

variable {files : Files} {env : Environment} {c : Config}

/-! ## The check -/

/-- The check, fault by fault. -/
theorem validate_eq (c : Config) :
    c.validate =
      match c.secrets.keys.find? fun k => !isSecretKey k with
      | some k => .error (.validation ("secrets." ++ k ++ " must match [A-Z0-9_]+"))
      | none =>
        if c.rawRoot.any fun s => !isWebAddress s then
          .error (.validation "fetch.raw_root must start with http:// or https://")
        else if c.timeout = 0 then
          .error (.validation "fetch.timeout_secs must be greater than 0")
        else .ok () := by
  unfold validate
  cases c.secrets.keys.find? fun k => !isSecretKey k with
  | some k => rfl
  | none =>
      by_cases haddress : (c.rawRoot.any fun s => !isWebAddress s) = true
      · simp only [haddress, if_true]
        rfl
      · by_cases htimeout : c.timeout = 0
        · simp only [haddress, htimeout, if_true]
          rfl
        · simp only [haddress, htimeout, if_false]
          rfl

theorem validate_eq_ok_iff : c.validate = .ok () ↔ c.Valid := by
  have haddress : (c.rawRoot.any fun s => !isWebAddress s) = true ↔
      ¬ ∀ s ∈ c.rawRoot, isWebAddress s = true := by
    cases c.rawRoot <;> simp
  rw [validate_eq]
  constructor
  · intro h
    split at h
    · cases h
    · rename_i hkeys
      split at h
      · cases h
      · rename_i hroot
        split at h
        · cases h
        · rename_i htimeout
          exact ⟨by simpa using hkeys, Decidable.of_not_not (mt haddress.2 hroot), htimeout⟩
  · intro h
    have hkeys : (c.secrets.keys.find? fun k => !isSecretKey k) = none := by
      simpa using h.secrets
    rw [hkeys]
    simp only [haddress, h.timeout, if_false]
    exact if_neg (not_not_intro h.rawRoot)

theorem valid_usual : usual.Valid :=
  ⟨by simp [usual, Dict.keys, Dict.empty], by simp [usual], by decide⟩

/-! ## Loading -/

theorem valid_of_read {path : String} (h : read files env path = .ok c) : c.Valid := by
  unfold read at h
  obtain ⟨text, -, h⟩ := Fallible.bind_eq_ok.1 h
  dsimp only at h
  split at h
  · obtain ⟨written, -, h⟩ := Fallible.bind_eq_ok.1 h
    obtain ⟨expanded, -, h⟩ := Fallible.bind_eq_ok.1 h
    obtain ⟨u, hvalid, h⟩ := Fallible.bind_eq_ok.1 h
    cases h
    exact validate_eq_ok_iff.1 hvalid
  · cases h

theorem valid_of_base {path : Option String} (h : base files env path = .ok c) : c.Valid := by
  unfold base at h
  split at h
  · split at h
    · exact valid_of_read h
    · cases h
  · exact valid_of_read h
  · cases h
    exact valid_usual

/-- Settings that are loaded are valid, whether the command line replaces some of them or not. -/
theorem valid_of_load {path : Option String} {overrides : Option Overrides}
    (h : load files env path overrides = .ok c) : c.Valid := by
  unfold load at h
  obtain ⟨found, hbase, h⟩ := Fallible.bind_eq_ok.1 h
  cases overrides with
  | none =>
      cases h
      exact valid_of_base hbase
  | some o =>
      obtain ⟨u, hvalid, h⟩ := Fallible.bind_eq_ok.1 h
      cases h
      exact validate_eq_ok_iff.1 hvalid

/-! ## Secrets of a run -/

/-- The secrets of a run are those of the settings; the address of repositories is not among the
open ones. -/
theorem mem_pipelineSecrets {e : String × String} (h : e ∈ c.pipelineSecrets.extra.entries) :
    e.1 ≠ Pipeline.rawRootKey ∧ e ∈ c.secrets.entries := by
  unfold pipelineSecrets Pipeline.Secrets.ofDict at h
  obtain ⟨hmem, hkey⟩ := List.mem_filter.1 h
  have hkey : e.1 ≠ Pipeline.rawRootKey := by simpa using hkey
  refine ⟨hkey, ?_⟩
  split at hmem
  · rcases Dict.mem_insert hmem with rfl | hmem
    · exact absurd rfl hkey
    · exact hmem
  · exact hmem

end Config

end PagePress
