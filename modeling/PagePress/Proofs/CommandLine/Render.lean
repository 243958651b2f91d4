import PagePress.CommandLine.Report
import PagePress.Proofs.Config.Settings
import PagePress.Proofs.Pipeline.Page

/-!
# Render — settings that load give contexts that pass

The keys of secrets are checked twice: when settings are loaded, and by the schema for contexts
after every stage of a run.  Between the two the address of repositories joins the secrets.

* `isSecretKey_iff`: both checks ask for the same keys;
* `valid_conforms`: valid settings, and parameters that do not stand for those with a meaning of
  their own, make a context that conforms;
* `course_of_render`: every check of a run of the program with the schemas of this library passes;
* `loaded_context_accepted`: the schema for contexts has nothing against settings that load.
-/

namespace PagePress

namespace CommandLine

open Pipeline (Context ContextConforms IsSecretName RawParams Registry SchemaSource ValidationError)

/-! ## Contexts -/

theorem isKeyChar_eq (c : Char) : Config.isKeyChar c = Pipeline.isSecretChar c := by
  rw [Bool.eq_iff_iff]
  simp [Config.isKeyChar, Pipeline.isSecretChar, Text.isUpper_iff, Char.isDigit_iff_toNat,
    Char.le_def, UInt32.le_iff_toNat_le]

theorem isSecretKey_iff {k : String} : Config.isSecretKey k = true ↔ IsSecretName k := by
  simp [Config.isSecretKey, IsSecretName, isKeyChar_eq]

theorem valid_conforms {c : Config} (h : c.Valid) {params : RawParams}
    (hparams : ∀ e ∈ params.extra.entries, e.1 ∉ RawParams.names) :
    ContextConforms ⟨params, c.pipelineSecrets⟩ := by
  refine ⟨hparams, ?_⟩
  intro e he
  obtain ⟨-, hmem⟩ := Config.mem_pipelineSecrets he
  exact isSecretKey_iff.1 (h.secrets e.1 (List.mem_map_of_mem hmem))

/-! ## Messages -/

/-- The message is none about a context that is not valid. -/
def Unalarming (message : String) : Prop :=
  ∀ n vs, message ≠ (ValidationError.invalidContext n vs).message

/-- The first two letters tell messages apart. -/
theorem unalarming_of_take {message : String} (h : message.toList.take 2 ≠ ['I', 'n']) :
    Unalarming message := by
  intro n vs heq
  refine h ?_
  rw [heq]
  unfold ValidationError.message
  simp [String.toList_append]

theorem unalarming_renderError (e : Render.Error) : Unalarming e.message := by
  refine unalarming_of_take ?_
  unfold Render.Error.message
  cases e <;> simp [String.toList_append]

/-- The message of a document that cannot be fetched. -/
theorem unalarming_fetchFails {source : Fetch.Source} {ctx : Context} {e : Fetch.FetchError}
    {message : String} (h : Pipeline.FetchFails source ctx e message) : Unalarming message := by
  refine unalarming_of_take ?_
  cases h <;> simp [String.toList_append]

/-- A run for a page that turned out in one of its ways has no error about its context. -/
theorem unalarming_turnout {format : Pipeline.Format} {main : Pipeline.Stage}
    {source : Fetch.Source} {registry : Render.Registry} {ctx : Context} {ran : List Nat}
    {s : Pipeline.State} {t : Pipeline.Turnout}
    (h : t.Describes format main source registry ctx ran s) : ∀ e ∈ s.error, Unalarming e := by
  intro message hmessage
  cases t with
  | unfetched e m =>
      obtain rfl : m = message := Option.some.inj ((Pipeline.Unfetched.error h).symm.trans hmessage)
      exact unalarming_fetchFails (Pipeline.Unfetched.fails h)
  | unrendered uri text e =>
      obtain rfl : e.message = message :=
        Option.some.inj ((Pipeline.Unrendered.error h).symm.trans hmessage)
      exact unalarming_renderError e
  | rendered uri text n => cases (Pipeline.Rendered.error h).symm.trans hmessage

/-! ## The program -/

theorem mainStage_cases (format : Pipeline.Format) :
    mainStage format = Pipeline.emitJson ∨ (mainStage format).IsIdle := by
  cases format with
  | json => exact .inl rfl
  | html => exact .inr fun _ _ => ⟨[], rfl⟩

/-- The pipeline that the program runs for arguments and settings. -/
def pipelineOf (files : Files) (web : Fetch.Source) (a : RenderArguments) (c : Config) : Pipeline :=
  Pipeline.page a.format (mainStage a.format) (sourceOf files web c) []

/-- The context of that run. -/
def contextOf (a : RenderArguments) (c : Config) : Context := ⟨a.params, c.pipelineSecrets⟩

/-- The state that it ends in. -/
def runOf (files : Files) (web : Fetch.Source) (a : RenderArguments) (c : Config) :
    Pipeline.State :=
  (pipelineOf files web a c).run ((schemasOf c).check files) (contextOf a c)

section

variable {files : Files} {web : Fetch.Source} {a : RenderArguments} {c : Config}

/-- With the schemas of this library, every check of the run passes, and its error, if it has one,
is none about its context. -/
theorem render_unalarmed (hvalid : c.Valid) (hschemas : c.schemaDir = none) :
    (∀ x ∈ Pipeline.executions
        ((pipelineOf files web a c).steps ((schemasOf c).check files) (contextOf a c)),
      (schemasOf c).check files x.shown (contextOf a c) x.number = .ok ()) ∧
    ∀ e ∈ (runOf files web a c).error, Unalarming e := by
  have hbundled : schemasOf c = .bundled := by simp [schemasOf, hschemas]
  have hconforms : ContextConforms (contextOf a c) := by
    refine valid_conforms hvalid ?_
    intro e he
    cases he
  have hmain := mainStage_cases a.format
  obtain ⟨places, s, hcourse, hturnout⟩ :=
    Pipeline.exists_course a.format hmain (sourceOf files web c) [] (contextOf a c)
  obtain ⟨hpass, -, hlast⟩ :=
    hcourse.record (fun u hu n => hu.check hconforms files n)
      (Pipeline.keepsSound_page a.format (Pipeline.keepsSound_main hmain) _ [])
      ⟨Pipeline.Content.sound_empty, by simp [Pipeline.State.empty, Pipeline.Response.empty]⟩
  have hrun : runOf files web a c = Pipeline.ensureErrorStatus s := by
    rw [runOf, hbundled]
    exact congrArg Pipeline.ensureErrorStatus hlast
  rw [hbundled, hrun]
  exact ⟨hpass, unalarming_turnout hturnout⟩

/-- A note that begins like one about the error of a run is one. -/
theorem error_of_told {message : String}
    (h : Note.told ("Pipeline error: " ++ message) ∈ (renderWith files web a c).notes) :
    (runOf files web a c).error = some message := by
  have hclosing : Note.told ("Pipeline error: " ++ message) ∈
      closingNotes a.verbose (runOf files web a c)
        ((runOf files web a c).response.status.getD 200) := by
    -- All other notes are messages of the log.
    rcases List.mem_append.1 h with h | h
    · rcases List.mem_append.1 h with h | h
      · split at h
        · obtain ⟨p, -, hlogged⟩ := List.mem_map.1 h
          cases hlogged
        · cases h
      · obtain ⟨e, -, hlogged⟩ := List.mem_map.1 h
        cases hlogged
    · exact h
  rcases List.mem_append.1 hclosing with h | h
  · obtain ⟨e, he, htold⟩ := List.mem_map.1 h
    have hsame : e = message := (String.append_right_inj _).1 (Note.told.inj htold)
    exact hsame ▸ Option.mem_toList.1 he
  · -- The note about the status begins with other letters.
    have hother : ∀ rest : String,
        "Pipeline error: " ++ message ≠ "Request failed with status " ++ rest ∧
          "Pipeline error: " ++ message ≠ "Status " ++ rest := by
      intro rest
      constructor <;> intro heq <;> have hlist := congrArg String.toList heq <;>
        simp [String.toList_append] at hlist
    split at h
    · exact absurd (Note.told.inj (List.mem_singleton.1 h)) (hother _).1
    · split at h
      · exact absurd (Note.told.inj (List.mem_singleton.1 h)) (hother _).2
      · cases h

end

/-- Settings that load give secrets that the schema for contexts accepts, whatever the parameters
are that come with them.  So no check of the schemas of this library finds fault with the context,
and the program, which checks by them unless the settings name others, does not either. -/
theorem loaded_context_accepted {files : Files} {env : Config.Environment} {path : Option String}
    {overrides : Option Config.Overrides} {c : Config}
    (hload : Config.load files env path overrides = .ok c) {params : RawParams}
    (hparams : ∀ e ∈ params.extra.entries, e.1 ∉ RawParams.names) :
    let ctx : Context := ⟨params, c.pipelineSecrets⟩
    Registry.bundled.violations Pipeline.contextSchemaId ctx.toJson = .ok [] ∧
      (∀ s n m vs, Registry.bundled.check s ctx n ≠ .error (.invalidContext m vs)) ∧
      ∀ (web : Fetch.Source) (a : RenderArguments),
        a.config = path → some a.overrides = overrides → c.schemaDir = none →
          (∀ x ∈ Pipeline.executions
              ((pipelineOf files web a c).steps ((schemasOf c).check files) (contextOf a c)),
            (schemasOf c).check files x.shown (contextOf a c) x.number = .ok ()) ∧
          ∀ n vs, Note.told ("Pipeline error: " ++ (ValidationError.invalidContext n vs).message) ∉
            (render files env web a).notes := by
  intro ctx
  have hvalid : c.Valid := Config.valid_of_load hload
  have hctx : Pipeline.ContextValid ctx := (valid_conforms hvalid hparams).valid
  have haccepts : Schema.Accepts [] Pipeline.Schemas.context ctx.toJson :=
    Pipeline.accepts_context_iff.2 hctx
  refine ⟨?_, ?_, ?_⟩
  · obtain ⟨vs, hvs, hiff⟩ := Pipeline.exists_violations_bundled Pipeline.contextSchemaId
      Pipeline.Schemas.context ctx.toJson (by simp)
    rw [hvs, hiff.2 haccepts]
  · intro s n m vs herror
    rcases Pipeline.check_bundled_cases s ctx n with
      ⟨-, -, hpass⟩ | ⟨-, ws, -, hstate⟩ | ⟨-, hrefused, -⟩
    · rw [hpass] at herror
      cases herror
    · rw [hstate] at herror
      cases herror
    · exact hrefused haccepts
  · rintro web a rfl rfl hschemas
    obtain ⟨hpass, hunalarmed⟩ := @render_unalarmed files web a c hvalid hschemas
    refine ⟨hpass, ?_⟩
    intro n vs htold
    rw [render, hload] at htold
    exact hunalarmed _ (error_of_told htold) n vs rfl

/-- A directory with settings that refer to a variable and give the address of repositories
twice. -/
def siteFiles : Files :=
  ⟨"/srv", [], .directory [
    ("docs", .directory [("index.md", .file (some "# Hello"))]),
    ("pipe.toml", .file (some (
      "[secrets]\nAPI_KEY = \"$\x7bKEY:-k\x7d\"\nREPO_RAW_ROOT = \"http://old/\"\n"
        ++ "[fetch]\nraw_root = \"https://raw.test/\"\n")))]⟩

/-- Arguments that name a directory of documents. -/
def siteArguments : RenderArguments :=
  ⟨"adobe", "docs", none, "/index.md", none, some "docs", none, none, .json, false⟩

/-- The settings in force there, where no variable is set. -/
def siteSettings : Config :=
  ⟨.ofList [("API_KEY", "k"), ("REPO_RAW_ROOT", "http://old/")], some "https://raw.test/", 10,
    some "docs", none, some "/srv/pipe.toml"⟩

theorem load_siteFiles :
    Config.load siteFiles (fun _ => none) none (some siteArguments.overrides) =
      .ok siteSettings := by
  have hload : (Config.load siteFiles (fun _ => none) none
      (some siteArguments.overrides)).toOption = some siteSettings := by decide +kernel
  cases h : Config.load siteFiles (fun _ => none) none (some siteArguments.overrides) with
  | error e =>
      rw [h] at hload
      cases hload
  | ok c =>
      rw [h] at hload
      cases hload
      rfl

theorem loaded_context_accepted_siteFiles :
    let params : RawParams :=
      { RawParams.empty with path := some "/index.md", extra := .ofList [("selector", "print")] }
    Config.load siteFiles (fun _ => none) none (some siteArguments.overrides) =
        .ok siteSettings ∧
      (∀ e ∈ params.extra.entries, e.1 ∉ RawParams.names) ∧
      Registry.bundled.violations Pipeline.contextSchemaId
        (Context.mk params siteSettings.pipelineSecrets).toJson = .ok [] ∧
      ∀ n vs, Note.told ("Pipeline error: " ++ (ValidationError.invalidContext n vs).message) ∉
        (render siteFiles (fun _ => none) (.unreachable "no connection") siteArguments).notes := by
  intro params
  have hparams : ∀ e ∈ params.extra.entries, e.1 ∉ RawParams.names :=
    Dict.forall_mem_ofList (by decide)
  obtain ⟨haccepted, -, hrun⟩ := loaded_context_accepted load_siteFiles hparams
  exact ⟨load_siteFiles, hparams, haccepted, (hrun _ siteArguments rfl rfl rfl).2⟩

end CommandLine

end PagePress
