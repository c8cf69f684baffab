import ServerConfig.Proofs.Acceptance
import ServerConfig.Proofs.Compilation
import ServerConfig.Source

/-!
# Validated configurations are consistent

A validation that succeeds leaves settings and derived values that agree with
each other, whatever the configuration was before.  `Consistent` collects what
agrees; it says nothing about the rules or about the draft they work on.  Only
`settledFields` are changed on the way.
-/

namespace ServerConfig

namespace Configuration

/-- The settings and the derived values of a configuration agree. -/
structure Consistent (configuration : Configuration) : Prop where
  whitelist :
    Whitelist.compile (configuration.settings.uploadWhitelist.map some) =
      .ok configuration.derived.whitelist
  networks :
    List.Forall₂
      (fun entry network => Whitelist.readEntry (some entry) = .ok network)
      configuration.settings.uploadWhitelist configuration.derived.whitelist
  serverUrl :
    ∃ url, configuration.settings.serverUrl = .ok url ∧
      configuration.derived.serverUrl = some url ∧
      configuration.serverUrl = url
  downloadUrl :
    configuration.settings.downloadDomain ≠ "" →
      Url.parseAbsolute configuration.settings.downloadDomain =
        .ok configuration.downloadUrl
  noDownloadDomain :
    configuration.settings.downloadDomain = "" →
      configuration.downloadUrl = configuration.serverUrl
  fileSize :
    configuration.settings.maxFileSizeText ≠ "" →
      ∃ bytes : Nat,
        ByteSize.parse configuration.settings.maxFileSizeText = .ok bytes ∧
          configuration.settings.maxFileSize = bytes
  defaultLifetime :
    configuration.settings.defaultLifetimeText ≠ "" →
      Lifetime.parse configuration.settings.defaultLifetimeText =
        .ok configuration.settings.defaultLifetime
  maxLifetime :
    configuration.settings.maxLifetimeText ≠ "" →
      Lifetime.parse configuration.settings.maxLifetimeText =
        .ok configuration.settings.maxLifetime
  bounds :
    configuration.settings.maxLifetime < 0 ∨
      configuration.settings.defaultLifetime ≤
        configuration.settings.maxLifetime
  port :
    0 ≤ configuration.settings.listenPort ∧
      configuration.settings.listenPort ≤ 65535
  path :
    configuration.settings.path = "" ∨
      configuration.settings.path.toList.head? = some '/'
  pathEnd : configuration.settings.path.toList.getLast? ≠ some '/'
  downloadEnd :
    configuration.settings.downloadDomain.toList.getLast? ≠ some '/'
  google :
    configuration.settings.googleAuthentication = true ↔
      configuration.settings.googleClientId ≠ "" ∧
        configuration.settings.googleSecret ≠ ""
  ovh :
    configuration.settings.ovhAuthentication = true ↔
      configuration.settings.ovhKey ≠ "" ∧ configuration.settings.ovhSecret ≠ ""
  authentication :
    configuration.settings.noAnonymousUploads = true →
      configuration.settings.authentication = true
  debugging :
    Text.upperName configuration.settings.logLevel = "DEBUG" →
      configuration.settings.debug = true

end Configuration

namespace Settings

variable {settings : Settings} {field : Field}

theorem get_settlePath (other : field ≠ .path) :
    settings.settlePath.get field = settings.get field :=
  settings.get_put_of_ne other _

theorem get_settleDownload (other : field ≠ .downloadDomain) :
    settings.settleDownload.get field = settings.get field :=
  settings.get_put_of_ne other _

theorem get_settleProviders (google : field ≠ .googleAuthentication)
    (ovh : field ≠ .ovhAuthentication) :
    settings.settleProviders.get field = settings.get field := by
  cases field <;> first
    | rfl
    | exact (google rfl).elim
    | exact (ovh rfl).elim

theorem get_settleDebugging (other : field ≠ .debug) :
    settings.settleDebugging.get field = settings.get field :=
  settings.get_put_of_ne other _

theorem googleAuthentication_settled :
    settings.settleProviders.settleDebugging.googleAuthentication = true ↔
      settings.settleProviders.settleDebugging.googleClientId ≠ "" ∧
        settings.settleProviders.settleDebugging.googleSecret ≠ "" := by
  change (!settings.googleClientId.isEmpty && !settings.googleSecret.isEmpty) =
    true ↔ settings.googleClientId ≠ "" ∧ settings.googleSecret ≠ ""
  simp

theorem ovhAuthentication_settled :
    settings.settleProviders.settleDebugging.ovhAuthentication = true ↔
      settings.settleProviders.settleDebugging.ovhKey ≠ "" ∧
        settings.settleProviders.settleDebugging.ovhSecret ≠ "" := by
  change (!settings.ovhKey.isEmpty && !settings.ovhSecret.isEmpty) = true ↔
    settings.ovhKey ≠ "" ∧ settings.ovhSecret ≠ ""
  simp

end Settings

namespace Validation

/-- The settings that a validation may change. -/
def settledFields : List Field :=
  [.maxFileSize, .defaultLifetime, .maxLifetime, .path, .downloadDomain,
   .googleAuthentication, .ovhAuthentication, .debug]

section Settled

variable {settings : Settings} {found : Findings}

theorem get_settleLimits {field : Field} (size : field ≠ .maxFileSize)
    (default : field ≠ .defaultLifetime) (greatest : field ≠ .maxLifetime) :
    (settleLimits settings found).get field = settings.get field :=
  calc
    _ = ((settings.put .maxFileSize found.size).put .defaultLifetime
          found.default).get field := Settings.get_put_of_ne _ greatest _
    _ = (settings.put .maxFileSize found.size).get field :=
      Settings.get_put_of_ne _ default _
    _ = settings.get field := Settings.get_put_of_ne _ size _

theorem get_settle {field : Field} (path : field ≠ .path)
    (download : field ≠ .downloadDomain)
    (google : field ≠ .googleAuthentication)
    (ovh : field ≠ .ovhAuthentication) (debug : field ≠ .debug) :
    (settle settings found).get field =
      (settleLimits settings found).get field := by
  rw [settle, Settings.get_settleDebugging debug,
    Settings.get_settleProviders google ovh,
    Settings.get_settleDownload download, Settings.get_settlePath path]

/-- Any other setting is kept. -/
theorem get_settle_of_notMem {field : Field} (other : field ∉ settledFields) :
    (settle settings found).get field = settings.get field := by
  simp only [settledFields, List.mem_cons, List.not_mem_nil, or_false, not_or]
    at other
  obtain ⟨size, default, greatest, path, download, google, ovh, debug⟩ := other
  rw [get_settle path download google ovh debug,
    get_settleLimits size default greatest]

variable (settings found)

theorem settle_maxFileSize :
    (settle settings found).maxFileSize = found.size := by
  have kept : (settle settings found).get .maxFileSize =
      (settleLimits settings found).get .maxFileSize := by
    apply get_settle <;> decide
  exact kept

theorem settle_defaultLifetime :
    (settle settings found).defaultLifetime = found.default := by
  have kept : (settle settings found).get .defaultLifetime =
      (settleLimits settings found).get .defaultLifetime := by
    apply get_settle <;> decide
  exact kept

theorem settle_maxLifetime :
    (settle settings found).maxLifetime = found.greatest := by
  have kept : (settle settings found).get .maxLifetime =
      (settleLimits settings found).get .maxLifetime := by
    apply get_settle <;> decide
  exact kept

theorem settle_path :
    (settle settings found).path = Text.dropTrailingSlashes settings.path := by
  have kept : (settle settings found).get .path =
      (settleLimits settings found).settlePath.get .path := by
    rw [settle, Settings.get_settleDebugging (by decide),
      Settings.get_settleProviders (by decide) (by decide),
      Settings.get_settleDownload (by decide)]
  exact kept

theorem settle_downloadDomain :
    (settle settings found).downloadDomain =
      Text.dropTrailingSlashes settings.downloadDomain := by
  have kept : (settle settings found).get .downloadDomain =
      (settleLimits settings found).settlePath.settleDownload.get
        .downloadDomain := by
    rw [settle, Settings.get_settleDebugging (by decide),
      Settings.get_settleProviders (by decide) (by decide)]
  have before : (settleLimits settings found).settlePath.get .downloadDomain =
      settings.get .downloadDomain := by
    rw [Settings.get_settlePath (by decide),
      get_settleLimits (by decide) (by decide) (by decide)]
  generalize (settleLimits settings found).settlePath = settled at kept before
  exact kept.trans (congrArg Text.dropTrailingSlashes before)

theorem settle_googleAuthentication :
    (settle settings found).googleAuthentication = true ↔
      (settle settings found).googleClientId ≠ "" ∧
        (settle settings found).googleSecret ≠ "" :=
  Settings.googleAuthentication_settled

theorem settle_ovhAuthentication :
    (settle settings found).ovhAuthentication = true ↔
      (settle settings found).ovhKey ≠ "" ∧
        (settle settings found).ovhSecret ≠ "" :=
  Settings.ovhAuthentication_settled

theorem settle_logLevel :
    (settle settings found).logLevel = settings.logLevel := by
  have kept : (settle settings found).get .logLevel = settings.get .logLevel :=
    get_settle_of_notMem (by decide)
  exact kept

theorem settle_debug :
    (settle settings found).debug =
      (settings.debug || settings.logsDebugging) := by
  have kept (field : Field) (named : field = .debug ∨ field = .logLevel) :
      (settleLimits settings
          found).settlePath.settleDownload.settleProviders.get field =
        settings.get field := by
    rcases named with rfl | rfl <;>
      rw [Settings.get_settleProviders (by decide) (by decide),
        Settings.get_settleDownload (by decide),
        Settings.get_settlePath (by decide),
        get_settleLimits (by decide) (by decide) (by decide)]
  rw [settle]
  generalize (settleLimits settings found).settlePath.settleDownload = before
    at kept ⊢
  have debug : before.settleProviders.debug = settings.debug :=
    kept .debug (.inl rfl)
  have level : before.settleProviders.logLevel = settings.logLevel :=
    kept .logLevel (.inr rfl)
  change (before.settleProviders.debug ||
    before.settleProviders.logsDebugging) = _
  rw [debug, Settings.logsDebugging, level, Settings.logsDebugging]

end Settled

/-- Accepted settings, once settled, agree with what is derived from them. -/
theorem Accepts.consistent {settings : Settings} {found : Findings}
    (accepts : Accepts settings.reading found) (autoClean : Bool) :
    Configuration.Consistent
      ⟨settle settings found, found.derived, autoClean⟩ := by
  have settled : Accepts (settle settings found).reading found := by
    rw [accepts.reading_settle]
    exact accepts
  have size := settle_maxFileSize settings found
  have default := settle_defaultLifetime settings found
  have greatest := settle_maxLifetime settings found
  have pathStripped : Text.dropTrailingSlashes (settle settings found).path =
      (settle settings found).path := by
    rw [settle_path, Text.dropTrailingSlashes_idem]
  have downloadStripped :
      Text.dropTrailingSlashes (settle settings found).downloadDomain =
        (settle settings found).downloadDomain := by
    rw [settle_downloadDomain, Text.dropTrailingSlashes_idem]
  have google := settle_googleAuthentication settings found
  have ovh := settle_ovhAuthentication settings found
  have debug : Text.upperName (settle settings found).logLevel = "DEBUG" →
      (settle settings found).debug = true := by
    intro level
    rw [settle_logLevel] at level
    simp [settle_debug, Settings.logsDebugging, level]
  generalize settle settings found = after at *
  have composed : after.serverUrl = .ok found.serverUrl := settled.serverUrl
  have server : Configuration.serverUrl ⟨after, found.derived, autoClean⟩ =
      found.serverUrl := by
    simp only [Configuration.serverUrl, composed]
  constructor
  case whitelist => exact settled.whitelist
  case networks =>
    have networks := Whitelist.compile_eq_ok_iff.mp settled.whitelist
    rwa [List.forall₂_map_left_iff] at networks
  case serverUrl => exact ⟨found.serverUrl, composed, rfl, server⟩
  case downloadUrl =>
    intro present
    have download := settled.download
    cases named : found.downloadUrl with
    | none => simp [named, Downloads, Settings.reading, present] at download
    | some url =>
        simp only [named, Downloads, Settings.reading, if_neg present,
          downloadStripped, Option.some.injEq, exists_eq_left'] at download
        simpa only [Configuration.downloadUrl, Findings.derived, named] using
          download
  case noDownloadDomain =>
    intro absent
    have download := settled.download
    cases named : found.downloadUrl with
    | none => simp only [Configuration.downloadUrl, Findings.derived, named]
    | some url =>
        simp only [named, Downloads, Settings.reading, if_pos absent]
          at download
        obtain ⟨text, given, _⟩ := download
        cases given
  case fileSize =>
    intro present
    have inEffect := settled.size
    simp only [Settings.reading, Settings.sizeInEffect, if_neg present]
      at inEffect
    cases read : ByteSize.parse after.maxFileSizeText with
    | error cause => simp [read, Except.map] at inEffect
    | ok bytes =>
        simp only [read, Except.map, Except.ok.injEq] at inEffect
        exact ⟨bytes, rfl, size.trans inEffect.symm⟩
  case defaultLifetime =>
    intro present
    have inEffect := settled.default
    simp only [Settings.reading, Settings.lifetimeInEffect, if_neg present]
      at inEffect
    rw [inEffect, default]
  case maxLifetime =>
    intro present
    have inEffect := settled.greatest
    simp only [Settings.reading, Settings.lifetimeInEffect, if_neg present]
      at inEffect
    rw [inEffect, greatest]
  case bounds =>
    rw [default, greatest]
    exact settled.bounds
  case port => exact Url.isPort_iff.mp (Url.isPort_of_ofServer_ok composed)
  case path =>
    have rooted := settled.path
    simp only [Settings.reading, pathStripped] at rooted
    exact rooted
  case pathEnd =>
    rw [← pathStripped]
    exact Text.getLast?_dropTrailingSlashes after.path
  case downloadEnd =>
    rw [← downloadStripped]
    exact Text.getLast?_dropTrailingSlashes after.downloadDomain
  case google => exact google
  case ovh => exact ovh
  case authentication => exact settled.authentication
  case debugging => exact debug

theorem validate_consistent {configuration : Configuration}
    (valid : (validate configuration).result = .ok ()) :
    (validate configuration).configuration.Consistent := by
  obtain ⟨found, accepts⟩ := validate_ok_iff.mp valid
  rw [accepts.validate_eq]
  exact accepts.consistent configuration.autoClean

/-- Only `settledFields` and what is derived are changed by a validation that
succeeds. -/
theorem validate_kept_of_ok {configuration : Configuration}
    (valid : (validate configuration).result = .ok ()) :
    (∀ field ∉ settledFields,
        (validate configuration).configuration.settings.get field =
          configuration.settings.get field) ∧
      (validate configuration).configuration.autoClean =
        configuration.autoClean := by
  obtain ⟨found, accepts⟩ := validate_ok_iff.mp valid
  rw [accepts.validate_eq]
  exact ⟨fun field other => get_settle_of_notMem other, rfl⟩

end Validation

namespace Configuration

open Validation (validate validate_consistent validate_kept_of_ok settledFields)

/-- Loading entries that decode is validating their settings. -/
theorem ofEntries_of_ok {source : String} {entries : Entries Datum}
    {settings : Settings} (decoded : Decoding.settings entries = .ok settings) :
    (ofEntries source entries).2 =
      ((validate (ofSettings settings)).result.mapError .ofFailure).map
        fun _ => (validate (ofSettings settings)).configuration := by
  unfold ofEntries
  simp only [decoded]
  cases (validate (ofSettings settings)).result <;> rfl

theorem ofEntries_of_error {source : String} {entries : Entries Datum}
    {faults : List Fault} (refused : Decoding.settings entries = .error faults) :
    (ofEntries source entries).2 =
      .error (.undecodable source (.values faults)) := by
  unfold ofEntries
  simp only [refused]

/-- Loaded configurations have been validated. -/
theorem exists_validated_of_ofEntries {source : String}
    {entries : Entries Datum} {loaded : Configuration}
    (success : (ofEntries source entries).2 = .ok loaded) :
    ∃ settings, Decoding.settings entries = .ok settings ∧
      (validate (ofSettings settings)).result = .ok () ∧
      loaded = (validate (ofSettings settings)).configuration := by
  cases decoded : Decoding.settings entries with
  | error faults =>
      rw [ofEntries_of_error decoded] at success
      cases success
  | ok settings =>
      rw [ofEntries_of_ok decoded] at success
      refine ⟨settings, rfl, ?_⟩
      cases valid : (validate (ofSettings settings)).result with
      | error failure =>
          rw [valid] at success
          cases success
      | ok done =>
          rw [valid] at success
          cases success
          exact ⟨rfl, rfl⟩

theorem ofEntries_consistent {source : String} {entries : Entries Datum}
    {loaded : Configuration}
    (success : (ofEntries source entries).2 = .ok loaded) :
    loaded.Consistent := by
  obtain ⟨settings, _, valid, rfl⟩ := exists_validated_of_ofEntries success
  exact validate_consistent valid

theorem load_consistent {read : FilePath → Except Unavailable ByteArray}
    {source : Source} {loaded : Configuration}
    (success : (load read source).2 = .ok loaded) :
    loaded.Consistent := by
  unfold load at success
  split at success
  · cases success
  · exact ofEntries_consistent success

theorem override_consistent {configuration : Configuration}
    {environment : Environment}
    (success : (configuration.override environment).result = .ok ()) :
    (configuration.override environment).configuration.Consistent := by
  unfold override at success ⊢
  dsimp only at success ⊢
  split at success
  · cases success
  · rename_i overridden applied
    dsimp only at success ⊢
    cases valid : (validate
        (configuration.applyEnvironment environment).configuration).result with
    | error failure => simp [valid, Except.mapError] at success
    | ok done => exact validate_consistent valid

/-- Whatever a configuration was before, a validation that succeeds makes its
settings and its derived values agree, and keeps all other settings.  So loaded
and overridden configurations are consistent. -/
theorem validated_configurations_consistent :
    (∀ configuration : Configuration,
      (validate configuration).result = .ok () →
        (validate configuration).configuration.Consistent ∧
          (∀ field ∉ settledFields,
            (validate configuration).configuration.settings.get field =
              configuration.settings.get field) ∧
          (validate configuration).configuration.autoClean =
            configuration.autoClean) ∧
      (∀ read source loaded,
        (load read source).2 = .ok loaded → loaded.Consistent) ∧
      (∀ source entries loaded,
        (ofEntries source entries).2 = .ok loaded → loaded.Consistent) ∧
      (∀ (configuration : Configuration) (environment : Environment),
        (configuration.override environment).result = .ok () →
          (configuration.override environment).configuration.Consistent) := by
  refine ⟨?_, ?_, ?_, ?_⟩
  · intro configuration valid
    exact ⟨validate_consistent valid, validate_kept_of_ok valid⟩
  · intro read source loaded success
    exact load_consistent success
  · intro source entries loaded success
    exact ofEntries_consistent success
  · intro configuration environment success
    exact override_consistent success

/-- Settings with a whitelist, texts beside all limits, solidi to be dropped,
credentials of both providers, and debugging messages. -/
def crowdedSettings : Settings where
  uploadWhitelist := ["10.0.0.0/8", "2001:db8::1"]
  maxFileSizeText := "1 MB"
  defaultLifetimeText := "1d"
  maxLifetimeText := "30d"
  path := "/files//"
  downloadDomain := "https://dl.example.com//"
  listenAddress := "::"
  googleClientId := "id"
  googleSecret := "secret"
  ovhKey := "key"
  ovhSecret := "secret"
  authentication := true
  noAnonymousUploads := true
  logLevel := "debug"

theorem crowded_consistent :
    (validate (ofSettings crowdedSettings)).result = .ok () ∧
      (validate (ofSettings crowdedSettings)).configuration.Consistent := by
  have valid : (validate (ofSettings crowdedSettings)).result = .ok () := by
    decide +kernel
  exact ⟨valid, (validated_configurations_consistent.1 _ valid).1⟩

end Configuration

end ServerConfig
