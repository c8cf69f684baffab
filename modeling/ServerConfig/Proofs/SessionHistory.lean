import ServerConfig.Proofs.Layering
import ServerConfig.Session

/-!
# What a session has validated last

Settings change at any time, and an operation that fails may have changed some
of them before.  What is derived follows the last successful validation all the
same.  `History` records the settings of that validation from the operations
and their success alone, without looking at what is derived, and
`History.Explains` compares the two.  Main statement: every reachable
configuration is explained by its history.
-/

namespace ServerConfig

open Validation

/-- These values are derived from settings that are valid. -/
structure Derived.StemsFrom (derived : Derived) (settings : Settings) :
    Prop where
  whitelist : Whitelist.compile (settings.uploadWhitelist.map some) =
    .ok derived.whitelist
  serverUrl : ∃ url, settings.serverUrl = .ok url ∧
    derived.serverUrl = some url
  downloadUrl : settings.downloadDomain ≠ "" →
    ∃ url, Url.parseAbsolute settings.downloadDomain = .ok url ∧
      derived.downloadUrl = some url
  noDownloadUrl : settings.downloadDomain = "" → derived.downloadUrl = none

namespace Validation

variable {settings : Settings} {found : Findings}
  {configuration : Configuration}

theorem Accepts.stemsFrom (accepts : Accepts settings.reading found) :
    found.derived.StemsFrom (settle settings found) := by
  have settled : Accepts (settle settings found).reading found := by
    rw [accepts.reading_settle]
    exact accepts
  have stripped :
      Text.dropTrailingSlashes (settle settings found).downloadDomain =
        (settle settings found).downloadDomain := by
    rw [settle_downloadDomain, Text.dropTrailingSlashes_idem]
  generalize settle settings found = after at settled stripped
  have download := settled.download
  constructor
  case whitelist => exact settled.whitelist
  case serverUrl => exact ⟨found.serverUrl, settled.serverUrl, rfl⟩
  case downloadUrl =>
    intro present
    cases named : found.downloadUrl with
    | none => simp [named, Downloads, Settings.reading, present] at download
    | some url =>
        simp only [named, Downloads, Settings.reading, if_neg present,
          stripped, Option.some.injEq, exists_eq_left'] at download
        exact ⟨url, download, named⟩
  case noDownloadUrl =>
    intro absent
    cases named : found.downloadUrl with
    | none => exact named
    | some url =>
        simp only [named, Downloads, Settings.reading, if_pos absent]
          at download
        obtain ⟨text, given, _⟩ := download
        cases given

theorem validate_stemsFrom
    (valid : (validate configuration).result = .ok ()) :
    (validate configuration).configuration.derived.StemsFrom
      (validate configuration).configuration.settings := by
  obtain ⟨found, accepts⟩ := validate_ok_iff.mp valid
  rw [accepts.validate_eq]
  exact accepts.stemsFrom

/-- A validation derives values from the settings that it is given: those that
it settles on the way are the limits, the flags and solidi at an end. -/
theorem validate_sources_of_ok
    (valid : (validate configuration).result = .ok ()) :
    (validate configuration).configuration.settings.uploadWhitelist =
        configuration.settings.uploadWhitelist ∧
      (validate configuration).configuration.settings.serverUrl =
        configuration.settings.serverUrl ∧
      (validate configuration).configuration.settings.downloadDomain =
        Text.dropTrailingSlashes configuration.settings.downloadDomain := by
  obtain ⟨found, accepts⟩ := validate_ok_iff.mp valid
  have sameReading := accepts.reading_settle
  rw [accepts.validate_eq]
  exact ⟨congrArg Reading.uploadWhitelist sameReading,
    congrArg Reading.serverUrl sameReading, settle_downloadDomain _ _⟩

end Validation

namespace Configuration

variable {configuration loaded : Configuration} {environment : Environment}

theorem stemsFrom_of_ofEntries {source : String} {entries : Entries Datum}
    (success : (ofEntries source entries).2 = .ok loaded) :
    loaded.derived.StemsFrom loaded.settings ∧ loaded.autoClean = true := by
  obtain ⟨settings, _, valid, rfl⟩ := exists_validated_of_ofEntries success
  exact ⟨validate_stemsFrom valid, (validate_kept_of_ok valid).2⟩

theorem stemsFrom_of_load {read : FilePath → Except Unavailable ByteArray}
    {source : Source} (success : (load read source).2 = .ok loaded) :
    loaded.derived.StemsFrom loaded.settings ∧ loaded.autoClean = true := by
  rw [load] at success
  cases found : source.entries read with
  | error cause =>
      rw [found] at success
      cases success
  | ok entries =>
      rw [found] at success
      exact stemsFrom_of_ofEntries success

theorem stemsFrom_of_override
    (success : (configuration.override environment).result = .ok ()) :
    (configuration.override environment).configuration.derived.StemsFrom
        (configuration.override environment).configuration.settings ∧
      (configuration.override environment).configuration.autoClean =
        configuration.autoClean := by
  cases applied : (environment.overrideFields Field.all
      configuration.settings).2 with
  | error cause =>
      rw [override_of_error applied] at success
      cases success
  | ok done =>
      obtain ⟨result, after⟩ := override_of_ok configuration applied
      rw [result] at success
      cases valid : (validate
          (configuration.withOverrides environment)).result with
      | error failure =>
          rw [valid] at success
          cases success
      | ok _ =>
          rw [after]
          exact ⟨validate_stemsFrom valid, (validate_kept_of_ok valid).2⟩

theorem override_kept_of_error {cause : AssemblyError}
    (failed : (configuration.override environment).result = .error cause) :
    (configuration.override environment).configuration.derived =
        configuration.derived ∧
      (configuration.override environment).configuration.autoClean =
        configuration.autoClean := by
  cases applied : (environment.overrideFields Field.all
      configuration.settings).2 with
  | error refused =>
      have after : (configuration.override environment).configuration =
          configuration.withOverrides environment := by
        simp only [override, applyEnvironment, applied]
        rfl
      rw [after]
      exact ⟨rfl, rfl⟩
  | ok done =>
      obtain ⟨result, after⟩ := override_of_ok configuration applied
      rw [result] at failed
      rw [after]
      cases valid : (validate
          (configuration.withOverrides environment)).result with
      | error failure => exact validate_kept_of_error valid
      | ok _ =>
          rw [valid] at failed
          cases failed

end Configuration

namespace Session

/-- What has become of the configuration of a session. -/
structure History where
  /-- The settings with which the last successful validation ended. -/
  validated : Option Settings := none
  /-- The last choice whether expired uploads are removed. -/
  autoClean : Option Bool := none

namespace History

/-- The history after an operation and its outcome.  An operation that fails
makes no history, and neither do operations that read or set settings. -/
def next (history : History) (operation : Operation)
    (outcome : Outcome Failure Answer) : History :=
  match outcome.result with
  | .error _ => history
  | .ok _ =>
      match operation with
      | .reset | .decode _ => {}
      | .load _ _ | .loadEntries _ _ =>
          { validated := some outcome.configuration.settings }
      | .validate | .override _ =>
          { history with validated := some outcome.configuration.settings }
      | .setAutoClean autoClean => { history with autoClean := some autoClean }
      | _ => history

/-- The history after a sequence of operations on a configuration. -/
def follow (history : History) (configuration : Configuration) :
    List Operation → History
  | [] => history
  | operation :: rest =>
      (history.next operation (step configuration operation)).follow
        (step configuration operation).configuration rest

/-- The history of a session. -/
def ofSession (operations : List Operation) : History :=
  follow {} .initial operations

/-- What a configuration has besides its settings is explained by a history:
nothing is derived before the first validation, and from then on the values are
those of the last one. -/
structure Explains (history : History) (configuration : Configuration) :
    Prop where
  nothing : history.validated = none → configuration.derived = {}
  derived : ∀ settings, history.validated = some settings →
    configuration.derived.StemsFrom settings
  autoClean : configuration.autoClean = history.autoClean.getD true

variable {history : History} {configuration other : Configuration}

theorem explains_fresh (settings : Settings) :
    Explains {} (.ofSettings settings) := by
  constructor
  · intro _
    rfl
  · intro _ validated
    cases validated
  · rfl

theorem explains_validated {settings : Settings} {choice : Option Bool}
    (stems : configuration.derived.StemsFrom settings)
    (autoClean : configuration.autoClean = choice.getD true) :
    Explains ⟨some settings, choice⟩ configuration := by
  constructor
  · intro validated
    cases validated
  · intro _ validated
    cases validated
    exact stems
  · exact autoClean

theorem Explains.of_kept (explains : history.Explains configuration)
    (derived : other.derived = configuration.derived)
    (autoClean : other.autoClean = configuration.autoClean) :
    history.Explains other := by
  constructor
  · intro validated
    rw [derived]
    exact explains.nothing validated
  · intro settings validated
    rw [derived]
    exact explains.derived settings validated
  · rw [autoClean]
    exact explains.autoClean

end History

variable {configuration : Configuration} {operation : Operation}

/-- An operation that fails leaves everything but settings as it was. -/
theorem step_kept_of_error {failure : Failure}
    (failed : (step configuration operation).result = .error failure) :
    (step configuration operation).configuration.derived =
        configuration.derived ∧
      (step configuration operation).configuration.autoClean =
        configuration.autoClean := by
  cases operation with
  | load directory source =>
      simp only [step, replace] at failed ⊢
      split at failed
      · cases failed
      · exact ⟨rfl, rfl⟩
  | loadEntries source entries =>
      simp only [step, replace] at failed ⊢
      split at failed
      · cases failed
      · exact ⟨rfl, rfl⟩
  | decode entries =>
      simp only [step] at failed ⊢
      split at failed
      · cases failed
      · exact ⟨rfl, rfl⟩
  | validate =>
      simp only [step] at failed ⊢
      split at failed
      · cases failed
      · rename_i cause invalid
        exact validate_kept_of_error invalid
  | override environment =>
      simp only [step] at failed ⊢
      split at failed
      · cases failed
      · rename_i cause refused
        exact Configuration.override_kept_of_error refused
  | reset => cases failed
  | setAutoClean autoClean => cases failed
  | _ => exact ⟨rfl, rfl⟩

/-- Every operation is accounted for in the history. -/
theorem History.Explains.next {history : History}
    (explains : history.Explains configuration) (operation : Operation) :
    (history.next operation (step configuration operation)).Explains
      (step configuration operation).configuration := by
  cases outcome : (step configuration operation).result with
  | error failure =>
      have kept := step_kept_of_error outcome
      simp only [History.next, outcome]
      exact explains.of_kept kept.1 kept.2
  | ok answered =>
      simp only [History.next, outcome]
      cases operation with
      | reset => exact History.explains_fresh _
      | decode entries =>
          simp only [step] at outcome ⊢
          split at outcome
          · exact History.explains_fresh _
          · cases outcome
      | load directory source =>
          simp only [step, replace] at outcome ⊢
          split at outcome
          · rename_i loaded
            have stems := Configuration.stemsFrom_of_load
              (congrArg Prod.snd loaded)
            exact History.explains_validated stems.1 stems.2
          · cases outcome
      | loadEntries source entries =>
          simp only [step, replace] at outcome ⊢
          split at outcome
          · rename_i loaded
            have stems := Configuration.stemsFrom_of_ofEntries
              (congrArg Prod.snd loaded)
            exact History.explains_validated stems.1 stems.2
          · cases outcome
      | validate =>
          simp only [step] at outcome ⊢
          split at outcome
          · rename_i valid
            refine History.explains_validated (validate_stemsFrom valid) ?_
            rw [(validate_kept_of_ok valid).2]
            exact explains.autoClean
          · cases outcome
      | override environment =>
          simp only [step] at outcome ⊢
          split at outcome
          · rename_i success
            have stems := Configuration.stemsFrom_of_override success
            refine History.explains_validated stems.1 ?_
            rw [stems.2]
            exact explains.autoClean
          · cases outcome
      | setAutoClean autoClean =>
          exact ⟨explains.nothing, explains.derived, rfl⟩
      | _ => exact explains.of_kept rfl rfl

/-- A history explains what a sequence of operations leaves behind, if it
explains what there was before. -/
theorem History.Explains.follow {history : History}
    (explains : history.Explains configuration) (operations : List Operation) :
    (history.follow configuration operations).Explains
      (run configuration operations) := by
  induction operations generalizing history configuration with
  | nil => exact explains
  | cons operation rest ih => exact ih (explains.next operation)

/-- In every session the derived values are those of the last successful
validation of the configuration, there are none before it, and expired uploads
are treated as was chosen last.  Operations that fail change nothing of this,
and a validation takes the whitelist and both URLs from the settings that it is
given. -/
theorem session_follows_last_validation (operations : List Operation) :
    (History.ofSession operations).Explains (run .initial operations) ∧
      (∀ operation failure,
        (step (run .initial operations) operation).result = .error failure →
          (step (run .initial operations) operation).configuration.derived =
              (run .initial operations).derived ∧
            (step (run .initial operations) operation).configuration.autoClean =
              (run .initial operations).autoClean) ∧
      (∀ configuration : Configuration,
        (validate configuration).result = .ok () →
          (validate configuration).configuration.settings.uploadWhitelist =
              configuration.settings.uploadWhitelist ∧
            (validate configuration).configuration.settings.serverUrl =
              configuration.settings.serverUrl ∧
            (validate configuration).configuration.settings.downloadDomain =
              Text.dropTrailingSlashes
                configuration.settings.downloadDomain) := by
  refine ⟨?_, ?_, ?_⟩
  · exact (History.explains_fresh Settings.defaults).follow operations
  · intro operation failure failed
    exact step_kept_of_error failed
  · intro configuration valid
    exact validate_sources_of_ok valid

/-- The operations of a session that enforces one network, then sets a
whitelist that is no such thing. -/
def malformedWhitelistSession : List Operation :=
  [.put .uploadWhitelist ["10.0.0.0/8"], .validate,
   .put .uploadWhitelist ["nowhere"]]

/-- A malformed whitelist does not take the place of the one in force. -/
theorem malformed_whitelist_not_enforced :
    (∃ failure, (step (run .initial malformedWhitelistSession)
        .validate).result = .error failure) ∧
      (step (run .initial malformedWhitelistSession)
        .validate).configuration.derived.whitelist =
          [.v4 0x0A000000 8] ∧
      (validate .initial).configuration.settings.serverUrl =
        Configuration.initial.settings.serverUrl := by
  have inForce : (run .initial malformedWhitelistSession).derived.whitelist =
      [.v4 0x0A000000 8] := by decide +kernel
  have failed : ∃ failure, (step (run .initial malformedWhitelistSession)
      .validate).result = .error failure := ⟨_, rfl⟩
  obtain ⟨failure, failed⟩ := failed
  obtain ⟨_, kept, sources⟩ :=
    session_follows_last_validation malformedWhitelistSession
  rw [(kept .validate failure failed).1]
  exact ⟨⟨failure, failed⟩, inForce, (sources .initial rfl).2.1⟩

end Session

end ServerConfig
