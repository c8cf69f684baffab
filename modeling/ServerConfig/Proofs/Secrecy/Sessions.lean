import ServerConfig.Proofs.Secrecy.Assembly
import ServerConfig.Session

/-!
# Secrets do not show

What a session shows is the log records and the result of each operation.  Two
sessions whose operations differ in texts for secrets only, of which both or
neither are empty, show the same.  Whether a secret is empty does show, in the
providers of authentication that are in use.
-/

namespace ServerConfig

namespace Configuration.LooksAlike

variable {configuration other : Configuration}

theorem eq_withSecrets (alike : configuration.LooksAlike other) :
    other = { configuration with
      settings := configuration.settings.withSecrets
        other.settings.googleSecret other.settings.ovhSecret } := by
  obtain ⟨settings, derived, autoClean⟩ := other
  have same := alike.settings.eq_withSecrets
  have derivedToo := alike.derived
  have autoCleanToo := alike.autoClean
  dsimp only at same derivedToo autoCleanToo
  rw [← derivedToo, ← autoCleanToo, ← same]

theorem put (alike : configuration.LooksAlike other) (field : Field)
    {first second : field.kind.Carrier}
    (values : field.LooksAlike first second) :
    (configuration.put field first).LooksAlike (other.put field second) :=
  ⟨alike.settings.put field values, alike.derived, alike.autoClean⟩

theorem setAutoClean (alike : configuration.LooksAlike other)
    (autoClean : Bool) :
    (configuration.setAutoClean autoClean).LooksAlike
      (other.setAutoClean autoClean) :=
  ⟨alike.settings, alike.derived, rfl⟩

theorem serverUrl (alike : configuration.LooksAlike other) :
    configuration.serverUrl = other.serverUrl := by
  rw [alike.eq_withSecrets]
  rfl

theorem downloadUrl (alike : configuration.LooksAlike other) :
    configuration.downloadUrl = other.downloadUrl := by
  rw [alike.eq_withSecrets]
  rfl

theorem allows (alike : configuration.LooksAlike other) :
    configuration.allows = other.allows := by
  rw [alike.eq_withSecrets]
  rfl

theorem dump (alike : configuration.LooksAlike other) :
    configuration.dump = other.dump := by
  rw [alike.eq_withSecrets]
  rfl

theorem publicView (alike : configuration.LooksAlike other) :
    configuration.publicView = other.publicView := by
  rw [alike.eq_withSecrets]
  rfl

theorem describe (alike : configuration.LooksAlike other) :
    configuration.describe = other.describe := by
  rw [alike.eq_withSecrets]
  rfl

end Configuration.LooksAlike

namespace Session

/-- What each of a sequence of operations shows. -/
def observations (configuration : Configuration) :
    List Operation → List (List Log.Record × Except Failure Answer)
  | [] => []
  | operation :: rest =>
      let outcome := step configuration operation
      (outcome.records, outcome.result) ::
        observations outcome.configuration rest

/-- Two operations look alike: they are the same, or the same but for texts
that are given to secrets. -/
inductive Operation.LooksAlike : Operation → Operation → Prop where
  | same (operation : Operation) : Operation.LooksAlike operation operation
  | load {directory directoryToo : Directory} {source sourceToo : Source} :
      source.name = sourceToo.name →
      ResultsAlike Entries.LooksAlike (source.entries directory.read)
        (sourceToo.entries directoryToo.read) →
      Operation.LooksAlike (.load directory source)
        (.load directoryToo sourceToo)
  | loadEntries (source : Source) {entries other : Entries Datum} :
      entries.LooksAlike other →
      Operation.LooksAlike (.loadEntries source entries)
        (.loadEntries source other)
  | decode {entries other : Entries Datum} :
      entries.LooksAlike other →
      Operation.LooksAlike (.decode entries) (.decode other)
  | put (field : Field) {value other : field.kind.Carrier} :
      field.LooksAlike value other →
      Operation.LooksAlike (.put field value) (.put field other)
  | override {environment other : Environment} :
      environment.LooksAlike other →
      Operation.LooksAlike (.override environment) (.override other)
  | applyEnvironment {environment other : Environment} :
      environment.LooksAlike other →
      Operation.LooksAlike (.applyEnvironment environment)
        (.applyEnvironment other)

open Validation (Outcome)

variable {configuration before : Configuration}

theorem answer_alike (similar : configuration.LooksAlike before)
    (result : Except Failure Answer) :
    (answer configuration result).LooksAlike (answer before result) :=
  ⟨similar, rfl, rfl⟩

theorem replace_alike (similar : configuration.LooksAlike before)
    {loaded loadedToo : List Log.Record × Except AssemblyError Configuration}
    (alike : Configuration.LoadedAlike loaded loadedToo) :
    (replace configuration loaded).LooksAlike (replace before loadedToo) := by
  obtain ⟨records, result⟩ := loaded
  obtain ⟨recordsToo, resultToo⟩ := loadedToo
  obtain ⟨same, results⟩ := alike
  dsimp only at same results
  subst same
  cases results with
  | ok found => exact ⟨found, rfl, rfl⟩
  | error cause => exact ⟨similar, rfl, rfl⟩

theorem step_decode_alike (similar : configuration.LooksAlike before)
    {entries other : Entries Datum} (alike : entries.LooksAlike other) :
    (step configuration (.decode entries)).LooksAlike
      (step before (.decode other)) := by
  have decoded := Decoding.settingsOf_alike alike Field.all
    (.refl Settings.defaults)
  simp only [step, Decoding.settings]
  generalize Decoding.settingsOf entries Settings.defaults Field.all = first
    at decoded ⊢
  generalize Decoding.settingsOf other Settings.defaults Field.all = second
    at decoded ⊢
  cases decoded with
  | ok settings => exact answer_alike (.ofSettings settings) _
  | error faults => exact answer_alike similar _

theorem step_override_alike (similar : configuration.LooksAlike before)
    {environment other : Environment} (alike : environment.LooksAlike other) :
    (step configuration (.override environment)).LooksAlike
      (step before (.override other)) := by
  have overridden := similar.override alike
  refine ⟨overridden.configuration, overridden.records, ?_⟩
  simp only [step, overridden.result]

theorem step_applyEnvironment_alike
    (similar : configuration.LooksAlike before)
    {environment other : Environment} (alike : environment.LooksAlike other) :
    (step configuration (.applyEnvironment environment)).LooksAlike
      (step before (.applyEnvironment other)) := by
  have applied := similar.applyEnvironment alike
  refine ⟨applied.configuration, applied.records, ?_⟩
  simp only [step, applied.result]

theorem step_put_alike (similar : configuration.LooksAlike before)
    (field : Field) {value other : field.kind.Carrier}
    (alike : field.LooksAlike value other) :
    (step configuration (.put field value)).LooksAlike
      (step before (.put field other)) :=
  answer_alike (similar.put field alike) _

theorem step_same (similar : configuration.LooksAlike before)
    (operation : Operation) :
    (step configuration operation).LooksAlike (step before operation) := by
  cases operation with
  | reset => exact answer_alike (.refl _) _
  | load directory source => exact replace_alike similar (.refl _)
  | loadEntries source entries => exact replace_alike similar (.refl _)
  | decode entries => exact step_decode_alike similar (.refl entries)
  | put field value => exact step_put_alike similar field (.refl field value)
  | validate =>
      have validated := similar.validate
      refine ⟨validated.configuration, validated.records, ?_⟩
      simp only [step, validated.result]
  | override environment =>
      exact step_override_alike similar (.refl environment)
  | applyEnvironment environment =>
      exact step_applyEnvironment_alike similar (.refl environment)
  | setAutoClean autoClean =>
      exact answer_alike (similar.setAutoClean autoClean) _
  | allows clients =>
      simp only [step, similar.allows]
      exact answer_alike similar _
  | serverUrl =>
      simp only [step, similar.serverUrl]
      exact answer_alike similar _
  | downloadUrl =>
      simp only [step, similar.downloadUrl]
      exact answer_alike similar _
  | dump =>
      simp only [step, similar.dump]
      exact answer_alike similar _
  | publicView =>
      simp only [step, similar.publicView]
      exact answer_alike similar _
  | describe =>
      simp only [step, similar.describe]
      exact answer_alike similar _

/-- Operations that look alike show the same, and leave configurations that
look alike. -/
theorem step_alike (similar : configuration.LooksAlike before)
    {operation other : Operation} (alike : operation.LooksAlike other) :
    (step configuration operation).LooksAlike (step before other) := by
  cases alike with
  | same => exact step_same similar operation
  | load named entries =>
      exact replace_alike similar (Configuration.load_alike named entries)
  | loadEntries source entries =>
      exact replace_alike similar (Configuration.ofEntries_alike entries _)
  | decode entries => exact step_decode_alike similar entries
  | put field values => exact step_put_alike similar field values
  | override environments => exact step_override_alike similar environments
  | applyEnvironment environments =>
      exact step_applyEnvironment_alike similar environments

section Sessions

variable {operations others : List Operation}

theorem run_alike (similar : configuration.LooksAlike before)
    (alike : List.Forall₂ Operation.LooksAlike operations others) :
    (run configuration operations).LooksAlike (run before others) := by
  induction alike generalizing configuration before with
  | nil => exact similar
  | cons first _ ih => exact ih (step_alike similar first).configuration

private theorem observations_alike (similar : configuration.LooksAlike before)
    (alike : List.Forall₂ Operation.LooksAlike operations others) :
    observations configuration operations = observations before others := by
  induction alike generalizing configuration before with
  | nil => rfl
  | cons first _ ih =>
      have shown := step_alike similar first
      rw [observations, observations, ih shown.configuration, shown.records,
        shown.result]

/-- Sessions that differ only in texts for secrets, of which both or neither
are empty, show the same, and so do all reports and accessors in the end. -/
theorem session_hides_secrets (similar : configuration.LooksAlike before)
    (alike : List.Forall₂ Operation.LooksAlike operations others) :
    observations configuration operations = observations before others ∧
      (run configuration operations).dump = (run before others).dump ∧
      (run configuration operations).describe =
        (run before others).describe ∧
      (run configuration operations).publicView =
        (run before others).publicView ∧
      (run configuration operations).allows = (run before others).allows ∧
      (run configuration operations).serverUrl =
        (run before others).serverUrl ∧
      (run configuration operations).downloadUrl =
        (run before others).downloadUrl ∧
      (run configuration operations).derived = (run before others).derived := by
  have ends := run_alike similar alike
  exact ⟨observations_alike similar alike, ends.dump, ends.describe,
    ends.publicView, ends.allows, ends.serverUrl, ends.downloadUrl,
    ends.derived⟩

/-- A session in which both providers are given the same secret, one by a
source and one by an environment, and that ends with all reports. -/
def reportingSession (secret : String) : List Operation :=
  [.loadEntries .packaged
      [(Field.key .googleClientId, .string "client"),
       (Field.key .googleSecret, .string secret)],
   .put .ovhKey "key",
   .override [(Field.variableName .ovhSecret, secret)],
   .dump, .describe, .publicView]

/-- Two secrets are told apart by the settings in the end, and by nothing that
the session has shown. -/
theorem reporting_session_hides_secrets :
    observations .initial (reportingSession "first") =
        observations .initial (reportingSession "second") ∧
      (run .initial (reportingSession "first")).settings.ovhSecret = "first" ∧
      (run .initial (reportingSession "second")).settings.ovhSecret =
        "second" ∧
      (run .initial (reportingSession "first")).settings.ovhAuthentication =
        true := by
  have empty : "first" = "" ↔ "second" = "" := by decide
  have alike : List.Forall₂ Operation.LooksAlike (reportingSession "first")
      (reportingSession "second") := by
    refine .cons (.loadEntries _ (.cons (.same _) (.cons ?_ .nil)))
      (.cons (.same _) (.cons (.override (.cons ?_ .nil))
        (.cons (.same _) (.cons (.same _) (.cons (.same _) .nil)))))
    · exact .secret (rfl : Field.isSecret .googleSecret = true) (.inl rfl) empty
    · exact .secret (rfl : Field.isSecret .ovhSecret = true) empty
  refine ⟨(session_hides_secrets (.refl .initial) alike).1, ?_⟩
  decide +kernel

end Sessions

end Session

end ServerConfig
