import ServerConfig.Proofs.Breaches
import ServerConfig.Proofs.Consistency
import ServerConfig.Proofs.FieldNames
import ServerConfig.Proofs.Overriding

/-!
# Overriding what has been validated before

Loading validates the settings of a source, and overriding them validates
again.  Settings that the first validation settled are overridden with the
rest, so the question is what remains of them.  `Settings.Alike` relates
settings between which a validation makes no difference; `Remembers` names the
settings of which overriding keeps what the first validation made of them.
-/

namespace ServerConfig

open Validation

namespace Settings

theorem ext_get {settings other : Settings}
    (same : ∀ field, settings.get field = other.get field) :
    settings = other := by
  cases settings
  cases other
  rw [Settings.mk.injEq]
  exact ⟨same .debug, same .debugRequests, same .logLevel,
    same .listenAddress, same .listenPort, same .path, same .sslEnabled,
    same .sslCert, same .sslKey, same .noWebInterface, same .downloadDomain,
    same .enhancedWebSecurity, same .sourceIpHeader, same .uploadWhitelist,
    same .maxFileSize, same .maxFileSizeText, same .maxFilesPerUpload,
    same .defaultLifetime, same .maxLifetime, same .defaultLifetimeText,
    same .maxLifetimeText, same .oneShot, same .removable, same .stream,
    same .protectedByPassword, same .authentication, same .noAnonymousUploads,
    same .googleAuthentication, same .googleClientId, same .googleSecret,
    same .googleDomains, same .ovhAuthentication, same .ovhKey,
    same .ovhSecret, same .ovhEndpoint, same .metadataBackend,
    same .metadataBackendConfig, same .dataBackend, same .dataBackendConfig,
    same .abuseContact⟩

/-- A validation makes no difference between these settings. -/
structure Alike (settings other : Settings) : Prop where
  kept : ∀ field ∉ settledFields, settings.get field = other.get field
  size : settings.reading.size = other.reading.size
  default : settings.reading.default = other.reading.default
  greatest : settings.reading.greatest = other.reading.greatest
  path : Text.dropTrailingSlashes settings.path =
    Text.dropTrailingSlashes other.path
  download : settings.reading.download = other.reading.download
  debug : (settings.debug || settings.logsDebugging) =
    (other.debug || other.logsDebugging)

namespace Alike

variable {settings other : Settings}

theorem serverUrl (alike : Alike settings other) :
    settings.serverUrl = other.serverUrl := by
  have tls : settings.sslEnabled = other.sslEnabled :=
    alike.kept .sslEnabled (by decide)
  have address : settings.listenAddress = other.listenAddress :=
    alike.kept .listenAddress (by decide)
  have port : settings.listenPort = other.listenPort :=
    alike.kept .listenPort (by decide)
  calc
    settings.serverUrl = Url.ofServer settings.sslEnabled
        settings.listenAddress settings.listenPort
        (Text.dropTrailingSlashes settings.path) :=
      (Url.ofServer_dropTrailingSlashes _ _ _ _).symm
    _ = Url.ofServer other.sslEnabled other.listenAddress other.listenPort
        (Text.dropTrailingSlashes other.path) := by
      rw [tls, address, port, alike.path]
    _ = other.serverUrl := Url.ofServer_dropTrailingSlashes _ _ _ _

theorem reading (alike : Alike settings other) :
    settings.reading = other.reading := by
  apply Reading.ext
  case sizeText => exact alike.kept .maxFileSizeText (by decide)
  case size => exact alike.size
  case defaultText => exact alike.kept .defaultLifetimeText (by decide)
  case default => exact alike.default
  case greatestText => exact alike.kept .maxLifetimeText (by decide)
  case greatest => exact alike.greatest
  case uploadWhitelist => exact alike.kept .uploadWhitelist (by decide)
  case path => exact alike.path
  case listenAddress => exact alike.kept .listenAddress (by decide)
  case listenPort => exact alike.kept .listenPort (by decide)
  case serverUrl => exact alike.serverUrl
  case download => exact alike.download
  case noAnonymousUploads => exact alike.kept .noAnonymousUploads (by decide)
  case authentication => exact alike.kept .authentication (by decide)

theorem downloadDomain (alike : Alike settings other) :
    Text.dropTrailingSlashes settings.downloadDomain =
      Text.dropTrailingSlashes other.downloadDomain := by
  have download := alike.download
  simp only [Settings.reading] at download
  split at download <;> split at download
  · rename_i absent absentToo
    rw [absent, absentToo]
  · cases download
  · cases download
  · exact Option.some.inj download

/-- Alike settings are settled to the same settings. -/
theorem settle (alike : Alike settings other) (found : Findings) :
    Validation.settle settings found = Validation.settle other found := by
  apply ext_get
  intro field
  by_cases settled : field ∈ settledFields
  · have same (kept : Field) (outside : kept ∉ settledFields) :
        (Validation.settle settings found).get kept =
          (Validation.settle other found).get kept := by
      rw [get_settle_of_notMem outside, get_settle_of_notMem outside]
      exact alike.kept kept outside
    simp only [settledFields, List.mem_cons, List.not_mem_nil, or_false]
      at settled
    rcases settled with rfl | rfl | rfl | rfl | rfl | rfl | rfl | rfl
    · exact (settle_maxFileSize settings found).trans
        (settle_maxFileSize other found).symm
    · exact (settle_defaultLifetime settings found).trans
        (settle_defaultLifetime other found).symm
    · exact (settle_maxLifetime settings found).trans
        (settle_maxLifetime other found).symm
    · exact (settle_path settings found).trans
        (alike.path.trans (settle_path other found).symm)
    · exact (settle_downloadDomain settings found).trans
        (alike.downloadDomain.trans (settle_downloadDomain other found).symm)
    · have client : (Validation.settle settings found).googleClientId =
          (Validation.settle other found).googleClientId :=
        same .googleClientId (by decide)
      have secret : (Validation.settle settings found).googleSecret =
          (Validation.settle other found).googleSecret :=
        same .googleSecret (by decide)
      have google : (Validation.settle settings found).googleAuthentication =
          (Validation.settle other found).googleAuthentication := by
        rw [Bool.eq_iff_iff, settle_googleAuthentication,
          settle_googleAuthentication, client, secret]
      exact google
    · have key : (Validation.settle settings found).ovhKey =
          (Validation.settle other found).ovhKey := same .ovhKey (by decide)
      have secret : (Validation.settle settings found).ovhSecret =
          (Validation.settle other found).ovhSecret :=
        same .ovhSecret (by decide)
      have ovh : (Validation.settle settings found).ovhAuthentication =
          (Validation.settle other found).ovhAuthentication := by
        rw [Bool.eq_iff_iff, settle_ovhAuthentication,
          settle_ovhAuthentication, key, secret]
      exact ovh
    · exact (settle_debug settings found).trans
        (alike.debug.trans (settle_debug other found).symm)
  · rw [get_settle_of_notMem settled, get_settle_of_notMem settled]
    exact alike.kept field settled

end Alike

end Settings

/-! ## What a validation before leaves -/

namespace Environment

variable {environment : Environment} {settings : Settings} {field : Field}

/-- The settings with the values of the variables. -/
def overridden (environment : Environment) (settings : Settings) : Settings :=
  (environment.overrideFields Field.all settings).1

/-- Overriding keeps what a validation before has made of a setting: the number
beside a text that the environment empties, and debugging that the level of
logging does not make necessary any more. -/
def Remembers (environment : Environment) (settings : Settings)
    (field : Field) : Prop :=
  environment.text? field = none ∧
    ((∃ text, textFormOf field = some text ∧
        environment.text? text = some "") ∨
      field = .debug ∧ (environment.overridden settings).logsDebugging = false)

theorem decides_iff (plain : ∀ source, textFormOf source ≠ some field) :
    environment.Decides Field.all field ↔ (environment.text? field).isSome := by
  constructor
  · rintro ⟨source, _, given, rfl | ⟨form, _⟩⟩
    · exact given
    · exact (plain source form).elim
  · intro given
    exact ⟨field, field.mem_all, given, .inl rfl⟩

private theorem textFormOf_injective {first second text : Field}
    (form : textFormOf first = some text)
    (again : textFormOf second = some text) : first = second := by
  cases first <;> cases form <;> cases second <;> cases again <;> rfl

/-- A number is not the text of another one. -/
theorem textFormOf_ne_number {number text : Field}
    (form : textFormOf number = some text) (source : Field) :
    textFormOf source ≠ some number := by
  intro reverse
  cases number <;> cases form <;> cases source <;> cases reverse

/-- Where the text beside a number is not given itself, only overriding that
number decides it. -/
theorem decides_text_iff {number text : Field} {fields : List Field}
    (form : textFormOf number = some text)
    (absent : environment.text? text = none) :
    environment.Decides fields text ↔
      number ∈ fields ∧ (environment.text? number).isSome := by
  constructor
  · rintro ⟨source, member, given, rfl | ⟨again, _⟩⟩
    · simp [absent] at given
    · rw [← textFormOf_injective again form]
      exact ⟨member, given⟩
  · rintro ⟨member, given⟩
    exact ⟨number, member, given, .inr ⟨form, absent⟩⟩

section Overridden

variable {done : List Field}

theorem get_overridden_of_not
    (kept : ¬ environment.Decides Field.all field) :
    (environment.overridden settings).get field = settings.get field :=
  get_overrideFields_of_not kept

theorem get_overridden_of_decides (before : Settings)
    (success : (environment.overrideFields Field.all settings).2 = .ok done)
    (decides : environment.Decides Field.all field) :
    (environment.overridden settings).get field =
      (environment.overridden before).get field :=
  get_overrideFields_of_decides before success decides

theorem toJson_overridden_text {number text : Field} {spelled : String}
    (success : (environment.overrideFields Field.all settings).2 = .ok done)
    (form : textFormOf number = some text)
    (given : environment.text? text = some spelled) :
    (environment.overridden settings).toJson text = .string spelled :=
  toJson_of_decoded_text form
    (get_overrideFields_of_text success text.mem_all given)

/-- Overriding makes numbers equal unless a text beside them is in effect. -/
theorem toJson_number_or_text {number text : Field} (before : Settings)
    (success : (environment.overrideFields Field.all settings).2 = .ok done)
    (form : textFormOf number = some text)
    (forgotten : environment.Remembers settings number →
      before.toJson number = settings.toJson number)
    (absent : settings.toJson text = .string "" →
      before.toJson number = settings.toJson number) :
    (environment.overridden before).toJson number =
        (environment.overridden settings).toJson number ∨
      (environment.overridden settings).toJson text ≠ .string "" := by
  by_cases decides : environment.Decides Field.all number
  · left
    have same := get_overridden_of_decides before success decides
    exact (congrArg number.kind.toJson same).symm
  · have keptBefore : (environment.overridden before).toJson number =
        before.toJson number :=
      congrArg number.kind.toJson (get_overridden_of_not decides)
    have kept : (environment.overridden settings).toJson number =
        settings.toJson number :=
      congrArg number.kind.toJson (get_overridden_of_not decides)
    rw [keptBefore, kept]
    have unset : environment.text? number = none := by
      rw [decides_iff (textFormOf_ne_number form)] at decides
      simpa using decides
    cases given : environment.text? text with
    | some spelled =>
        rw [toJson_overridden_text success form given]
        by_cases emptied : spelled = ""
        · left
          rw [emptied] at given
          exact forgotten ⟨unset, .inl ⟨text, form, given⟩⟩
        · right
          intro same
          exact emptied (Json.string.inj same)
    | none =>
        have undecided : ¬ environment.Decides Field.all text := by
          rw [decides_text_iff form given]
          simp [unset]
        have same : (environment.overridden settings).toJson text =
            settings.toJson text :=
          congrArg text.kind.toJson (get_overridden_of_not undecided)
        rw [same]
        by_cases empty : settings.toJson text = .string ""
        · exact .inl (absent empty)
        · exact .inr empty

end Overridden

end Environment

namespace Settings

theorem sizeInEffect_congr {text : String} {bytes other : Int}
    (same : bytes = other ∨ text ≠ "") :
    sizeInEffect text bytes = sizeInEffect text other := by
  rcases same with rfl | present
  · rfl
  · simp only [sizeInEffect, if_neg present]

theorem lifetimeInEffect_congr {text : String} {seconds other : Int}
    (same : seconds = other ∨ text ≠ "") :
    lifetimeInEffect text seconds = lifetimeInEffect text other := by
  rcases same with rfl | present
  · rfl
  · simp only [lifetimeInEffect, if_neg present]

theorem download_congr {settings other : Settings}
    (same : settings.downloadDomain = other.downloadDomain) :
    settings.reading.download = other.reading.download := by
  simp only [reading, same]

end Settings

namespace Validation.Accepts

variable {settings : Settings} {found : Findings}

theorem size_of_no_text (accepts : Accepts settings.reading found)
    (absent : settings.maxFileSizeText = "") :
    found.size = settings.maxFileSize := by
  have inEffect := accepts.size
  simp only [Settings.reading, Settings.sizeInEffect, if_pos absent,
    Except.ok.injEq] at inEffect
  exact inEffect.symm

private theorem default_of_no_text (accepts : Accepts settings.reading found)
    (absent : settings.defaultLifetimeText = "") :
    found.default = settings.defaultLifetime := by
  have inEffect := accepts.default
  simp only [Settings.reading, Settings.lifetimeInEffect, if_pos absent,
    Except.ok.injEq] at inEffect
  exact inEffect.symm

private theorem greatest_of_no_text (accepts : Accepts settings.reading found)
    (absent : settings.maxLifetimeText = "") :
    found.greatest = settings.maxLifetime := by
  have inEffect := accepts.greatest
  simp only [Settings.reading, Settings.lifetimeInEffect, if_pos absent,
    Except.ok.injEq] at inEffect
  exact inEffect.symm

/-- Settling keeps a number that no text beside it overrules. -/
theorem get_settle_of_no_text (accepts : Accepts settings.reading found)
    {number text : Field} (form : Environment.textFormOf number = some text)
    (absent : settings.toJson text = .string "") :
    (settle settings found).get number = settings.get number := by
  cases number <;> cases form
  case maxFileSize.refl =>
    exact (settle_maxFileSize settings found).trans
      (accepts.size_of_no_text (Json.string.inj absent))
  case defaultLifetime.refl =>
    exact (settle_defaultLifetime settings found).trans
      (accepts.default_of_no_text (Json.string.inj absent))
  case maxLifetime.refl =>
    exact (settle_maxLifetime settings found).trans
      (accepts.greatest_of_no_text (Json.string.inj absent))

end Validation.Accepts

namespace Environment

variable {environment : Environment} {settings : Settings} {found : Findings}
  {done : List Field}

/-- Where overriding remembers nothing that the validation before has changed,
that validation makes no difference. -/
theorem alike_overridden
    (accepts : Accepts settings.reading found)
    (success : (environment.overrideFields Field.all settings).2 = .ok done)
    (forgotten : ∀ field, environment.Remembers settings field →
      (settle settings found).get field = settings.get field) :
    (environment.overridden (settle settings found)).Alike
      (environment.overridden settings) := by
  generalize same : settle settings found = settled at forgotten ⊢
  have decided (field : Field)
      (decides : environment.Decides Field.all field) :
      (environment.overridden settled).get field =
        (environment.overridden settings).get field :=
    (get_overridden_of_decides settled success decides).symm
  have kept (field : Field) (outside : field ∉ settledFields) :
      (environment.overridden settled).get field =
        (environment.overridden settings).get field := by
    by_cases decides : environment.Decides Field.all field
    · exact decided field decides
    · rw [get_overridden_of_not decides, get_overridden_of_not decides, ← same]
      exact get_settle_of_notMem outside
  have numbers (number : Field) {text : Field}
      (form : textFormOf number = some text) :
      (environment.overridden settled).toJson number =
          (environment.overridden settings).toJson number ∨
        (environment.overridden settings).toJson text ≠ .string "" := by
    apply toJson_number_or_text settled success form
    · intro remembers
      exact congrArg number.kind.toJson (forgotten number remembers)
    · intro empty
      rw [← same]
      exact congrArg number.kind.toJson
        (accepts.get_settle_of_no_text form empty)
  constructor
  case kept => exact kept
  case size =>
    have text : (environment.overridden settled).maxFileSizeText =
        (environment.overridden settings).maxFileSizeText :=
      kept .maxFileSizeText (by decide)
    change Settings.sizeInEffect _ _ = Settings.sizeInEffect _ _
    rw [text]
    apply Settings.sizeInEffect_congr
    exact (numbers .maxFileSize rfl).imp Json.integer.inj
      fun present empty => present (congrArg Json.string empty)
  case default =>
    have text : (environment.overridden settled).defaultLifetimeText =
        (environment.overridden settings).defaultLifetimeText :=
      kept .defaultLifetimeText (by decide)
    change Settings.lifetimeInEffect _ _ = Settings.lifetimeInEffect _ _
    rw [text]
    apply Settings.lifetimeInEffect_congr
    exact (numbers .defaultLifetime rfl).imp Json.integer.inj
      fun present empty => present (congrArg Json.string empty)
  case greatest =>
    have text : (environment.overridden settled).maxLifetimeText =
        (environment.overridden settings).maxLifetimeText :=
      kept .maxLifetimeText (by decide)
    change Settings.lifetimeInEffect _ _ = Settings.lifetimeInEffect _ _
    rw [text]
    apply Settings.lifetimeInEffect_congr
    exact (numbers .maxLifetime rfl).imp Json.integer.inj
      fun present empty => present (congrArg Json.string empty)
  case path =>
    by_cases decides : environment.Decides Field.all .path
    · exact congrArg Text.dropTrailingSlashes (decided .path decides)
    · have after : (environment.overridden settled).path = settled.path :=
        get_overridden_of_not decides
      have raw : (environment.overridden settings).path = settings.path :=
        get_overridden_of_not decides
      rw [after, raw, ← same, settle_path, Text.dropTrailingSlashes_idem]
  case download =>
    by_cases decides : environment.Decides Field.all .downloadDomain
    · exact Settings.download_congr (decided .downloadDomain decides)
    · have after : (environment.overridden settled).reading.download =
          settled.reading.download :=
        Settings.download_congr (get_overridden_of_not decides)
      have raw : (environment.overridden settings).reading.download =
          settings.reading.download :=
        Settings.download_congr (get_overridden_of_not decides)
      rw [after, raw, ← same, accepts.reading_settle]
  case debug =>
    have level : (environment.overridden settled).logsDebugging =
        (environment.overridden settings).logsDebugging := by
      have same : (environment.overridden settled).logLevel =
          (environment.overridden settings).logLevel :=
        kept .logLevel (by decide)
      rw [Settings.logsDebugging, same, Settings.logsDebugging]
    rw [level]
    by_cases decides : environment.Decides Field.all .debug
    · have debug : (environment.overridden settled).debug =
          (environment.overridden settings).debug := decided .debug decides
      rw [debug]
    · have after : (environment.overridden settled).debug = settled.debug :=
        get_overridden_of_not decides
      have raw : (environment.overridden settings).debug = settings.debug :=
        get_overridden_of_not decides
      cases logs : (environment.overridden settings).logsDebugging with
      | true => rw [Bool.or_true, Bool.or_true]
      | false =>
          rw [decides_iff (by rintro source form; cases source <;> cases form)]
            at decides
          have debug : settled.debug = settings.debug :=
            forgotten .debug ⟨by simpa using decides, .inr ⟨rfl, logs⟩⟩
          rw [after, raw, debug]

/-- What overriding remembers can be told from the settings in the end. -/
theorem forgotten_of_settle_eq {first second : Findings}
    (success : (environment.overrideFields Field.all settings).2 = .ok done)
    (before : Settings)
    (accepts : Accepts (environment.overridden before).reading first)
    (again : Accepts (environment.overridden settings).reading second)
    (same : settle (environment.overridden before) first =
      settle (environment.overridden settings) second)
    {field : Field} (remembers : environment.Remembers settings field) :
    before.get field = settings.get field := by
  have successBefore : (environment.overrideFields Field.all before).2 =
      .ok done := by
    rw [overrideFields_result environment Field.all before settings, success]
  obtain ⟨unset, ⟨text, form, emptied⟩ | ⟨rfl, quiet⟩⟩ := remembers
  · have undecided : ¬ environment.Decides Field.all field := by
      rw [decides_iff (textFormOf_ne_number form)]
      simp [unset]
    have after : (environment.overridden before).get field = before.get field :=
      get_overridden_of_not undecided
    have raw : (environment.overridden settings).get field =
        settings.get field := get_overridden_of_not undecided
    have empty := toJson_overridden_text success form emptied
    have emptyBefore := toJson_overridden_text successBefore form emptied
    calc
      before.get field = (environment.overridden before).get field :=
        after.symm
      _ = (settle (environment.overridden before) first).get field :=
        (accepts.get_settle_of_no_text form emptyBefore).symm
      _ = (settle (environment.overridden settings) second).get field := by
        rw [same]
      _ = (environment.overridden settings).get field :=
        again.get_settle_of_no_text form empty
      _ = settings.get field := raw
  · have undecided : ¬ environment.Decides Field.all .debug := by
      rw [decides_iff (by rintro source form; cases source <;> cases form)]
      simp [unset]
    have after : (environment.overridden before).debug = before.debug :=
      get_overridden_of_not undecided
    have raw : (environment.overridden settings).debug = settings.debug :=
      get_overridden_of_not undecided
    have level := congrArg Settings.logLevel same
    rw [settle_logLevel, settle_logLevel] at level
    have quietBefore : (environment.overridden before).logsDebugging =
        false := by
      rw [Settings.logsDebugging, level]
      exact quiet
    have debug := congrArg Settings.debug same
    rw [settle_debug, settle_debug, quiet, quietBefore, Bool.or_false,
      Bool.or_false, after, raw] at debug
    exact debug

end Environment

/-! ## Outcomes -/

/-- Two errors report the same: the same variable with the same text, the same
setting with the same value, or the same integer that is too long. -/
def AssemblyError.SameReport : AssemblyError → AssemblyError → Prop
  | .coercion cause, .coercion other => cause = other
  | .violation cause, .violation other =>
      cause.field = other.field ∧ cause.value = other.value
  | .numeral cause, .numeral other => cause = other
  | _, _ => False

namespace Validation

/-- Two ends agree: they leave the same configuration, or report the same. -/
def Outcome.Agree (first second : Outcome AssemblyError Unit) : Prop :=
  match first.result, second.result with
  | .ok _, .ok _ => first.configuration = second.configuration
  | .error cause, .error other => cause.SameReport other
  | _, _ => False

/-- Two readings break the same rule first, with values that are reported
alike. -/
def BreachedAlike (reading other : Reading) : Prop :=
  ∃ field value found, FirstBreach reading ruleOrder field value ∧
    FirstBreach other ruleOrder field found ∧
    (value = found ∨ Unreportable field value ∧ Unreportable field found)

theorem Failure.Reports.sameReport {failure other : Failure} {field : Field}
    {value found : Json} (reports : failure.Reports field value)
    (again : other.Reports field found)
    (alike : value = found ∨
      Unreportable field value ∧ Unreportable field found) :
    (AssemblyError.ofFailure failure).SameReport (.ofFailure other) := by
  cases failure with
  | violation cause =>
      obtain ⟨named, valued, reportable⟩ := reports.of_violation
      obtain rfl : value = found :=
        alike.resolve_right fun both => reportable both.1
      cases other with
      | violation _ =>
          obtain ⟨otherNamed, otherValued, _⟩ := again.of_violation
          exact ⟨named.trans otherNamed.symm, valued.trans otherValued.symm⟩
      | numeral _ => exact (reportable again.of_numeral.2).elim
  | numeral cause =>
      obtain ⟨rfl, unreportable⟩ := reports.of_numeral
      cases other with
      | violation _ =>
          obtain ⟨_, _, reportable⟩ := again.of_violation
          rcases alike with rfl | both
          · exact (reportable unreportable).elim
          · exact (reportable both.2).elim
      | numeral _ => exact again.of_numeral.1.symm

theorem Failure.Reports.alike_of_sameReport {failure other : Failure}
    {field otherField : Field} {value found : Json}
    (reports : failure.Reports field value)
    (again : other.Reports otherField found)
    (same : (AssemblyError.ofFailure failure).SameReport (.ofFailure other)) :
    field = otherField ∧ (value = found ∨
      Unreportable field value ∧ Unreportable otherField found) := by
  cases failure with
  | violation cause =>
      cases other with
      | violation _ =>
          obtain ⟨rfl, rfl, _⟩ := reports.of_violation
          obtain ⟨rfl, rfl, _⟩ := again.of_violation
          exact ⟨same.1, .inl same.2⟩
      | numeral _ => exact same.elim
  | numeral cause =>
      cases other with
      | violation _ => exact same.elim
      | numeral _ =>
          have unreportable := reports.of_numeral.2
          have otherUnreportable := again.of_numeral.2
          exact ⟨unreportable.1.trans otherUnreportable.1.symm,
            .inr ⟨unreportable, otherUnreportable⟩⟩

section Agreement

variable {first second : Configuration} {failure other : Failure}

/-- Validations that fail report the same exactly if the same rule is broken
first. -/
theorem sameReport_iff_breachedAlike
    (failed : (validate first).result = .error failure)
    (failedToo : (validate second).result = .error other) :
    (AssemblyError.ofFailure failure).SameReport (.ofFailure other) ↔
      BreachedAlike first.settings.reading second.settings.reading := by
  obtain ⟨field, value, breach, reports⟩ :=
    firstBreach_of_validate_error failed
  obtain ⟨otherField, found, again, otherReports⟩ :=
    firstBreach_of_validate_error failedToo
  constructor
  · intro same
    obtain ⟨rfl, alike⟩ := reports.alike_of_sameReport otherReports same
    exact ⟨field, value, found, breach, again, alike⟩
  · rintro ⟨_, _, _, breached, breachedToo, alike⟩
    obtain ⟨rfl, rfl⟩ := breach.unique breached
    obtain ⟨rfl, rfl⟩ := again.unique breachedToo
    exact reports.sameReport otherReports alike

/-- A failure is reported alike wherever the reading is the same. -/
theorem breachedAlike_of_reading_eq
    (failed : (validate first).result = .error failure)
    (same : first.settings.reading = second.settings.reading) :
    BreachedAlike first.settings.reading second.settings.reading := by
  obtain ⟨field, value, breach, _⟩ := firstBreach_of_validate_error failed
  exact ⟨field, value, value, breach, same ▸ breach, .inl rfl⟩

end Agreement

end Validation

namespace Configuration

open Environment (alike_overridden forgotten_of_settle_eq overrideFields_result)

variable {configuration : Configuration} {environment : Environment}

theorem override_of_error {cause : Coercion}
    (refused : (environment.overrideFields Field.all
      configuration.settings).2 = .error cause) :
    (configuration.override environment).result = .error (.coercion cause) := by
  simp only [override, applyEnvironment, refused]

/-- The configuration with overridden settings, before it is validated. -/
def withOverrides (configuration : Configuration)
    (environment : Environment) : Configuration :=
  { configuration with
    settings := environment.overridden configuration.settings }

theorem override_of_ok (configuration : Configuration) {done : List Field}
    (success : (environment.overrideFields Field.all
      configuration.settings).2 = .ok done) :
    (configuration.override environment).result =
        (validate (configuration.withOverrides environment)).result.mapError
          .ofFailure ∧
      (configuration.override environment).configuration =
        (validate (configuration.withOverrides environment)).configuration := by
  simp only [override, applyEnvironment, success]
  exact ⟨rfl, rfl⟩

/-- Overriding keeps nothing that a validation before has changed. -/
def LeavesNoTrace (environment : Environment)
    (settings before : Settings) : Prop :=
  ∀ field, environment.Remembers settings field →
    before.get field = settings.get field

/-- Overriding is refused in the same way: by the text of a variable, or
because the same rule is broken first. -/
def RefusedAlike (environment : Environment)
    (settings before : Settings) : Prop :=
  (∃ cause, (environment.overrideFields Field.all settings).2 =
      .error cause) ∨
    BreachedAlike (environment.overridden before).reading
      (environment.overridden settings).reading

section Validated

variable {settings : Settings} {found : Findings} {done : List Field}
  {first second : Configuration}

/-- Overridden settings that both validate are settled alike exactly if no trace
is left. -/
theorem validate_withOverrides_eq_iff
    (accepts : Accepts settings.reading found)
    (success : (environment.overrideFields Field.all settings).2 = .ok done)
    (firstSettings : first.settings = settle settings found)
    (secondSettings : second.settings = settings)
    (autoClean : first.autoClean = second.autoClean)
    (valid : (validate (first.withOverrides environment)).result = .ok ())
    (validToo : (validate (second.withOverrides environment)).result = .ok ()) :
    (validate (first.withOverrides environment)).configuration =
        (validate (second.withOverrides environment)).configuration ↔
      LeavesNoTrace environment settings (settle settings found) := by
  obtain ⟨firstFound, firstAccepts⟩ := validate_ok_iff.mp valid
  obtain ⟨secondFound, secondAccepts⟩ := validate_ok_iff.mp validToo
  rw [firstAccepts.validate_eq, secondAccepts.validate_eq]
  simp only [withOverrides, firstSettings, secondSettings]
    at firstAccepts secondAccepts ⊢
  constructor
  · intro same field remembers
    exact forgotten_of_settle_eq success _ firstAccepts secondAccepts
      (congrArg Configuration.settings same) remembers
  · intro forgotten
    have alike := alike_overridden accepts success forgotten
    rw [alike.reading] at firstAccepts
    obtain rfl := firstAccepts.unique secondAccepts
    rw [alike.settle, autoClean]

/-- Once the texts of all variables have been read, only traces and breaches
matter. -/
theorem override_agree_iff
    (accepts : Accepts settings.reading found)
    (success : (environment.overrideFields Field.all settings).2 = .ok done)
    (firstSettings : first.settings = settle settings found)
    (secondSettings : second.settings = settings)
    (autoClean : first.autoClean = second.autoClean) :
    (first.override environment).Agree (second.override environment) ↔
      LeavesNoTrace environment settings (settle settings found) ∨
        BreachedAlike (environment.overridden (settle settings found)).reading
          (environment.overridden settings).reading := by
  have firstSuccess : (environment.overrideFields Field.all
      first.settings).2 = .ok done := by
    rw [overrideFields_result environment Field.all _ settings, success]
  have secondSuccess : (environment.overrideFields Field.all
      second.settings).2 = .ok done := by
    rw [secondSettings, success]
  obtain ⟨firstResult, firstConfiguration⟩ := override_of_ok first firstSuccess
  obtain ⟨secondResult, secondConfiguration⟩ :=
    override_of_ok second secondSuccess
  have firstReading : (first.withOverrides environment).settings.reading =
      (environment.overridden (settle settings found)).reading := by
    rw [withOverrides, firstSettings]
  have secondReading : (second.withOverrides environment).settings.reading =
      (environment.overridden settings).reading := by
    rw [withOverrides, secondSettings]
  have sameReading
      (forgotten : LeavesNoTrace environment settings (settle settings found)) :
      (first.withOverrides environment).settings.reading =
        (second.withOverrides environment).settings.reading := by
    rw [firstReading, secondReading]
    exact (alike_overridden accepts success forgotten).reading
  rw [Outcome.Agree, firstResult, firstConfiguration, secondResult,
    secondConfiguration, ← firstReading, ← secondReading]
  cases valid : (validate (first.withOverrides environment)).result with
  | ok firstDone =>
      cases validToo : (validate (second.withOverrides environment)).result with
      | ok secondDone =>
          rw [← validate_withOverrides_eq_iff accepts success firstSettings
            secondSettings autoClean valid validToo]
          constructor
          · exact .inl
          · rintro (same | ⟨field, value, _, breach, _⟩)
            · exact same
            · exact (not_breaks_of_validate_ok valid _ _ breach.breaks).elim
      | error failure =>
          constructor
          · exact False.elim
          · rintro (forgotten | ⟨field, value, _, breach, _⟩)
            · obtain ⟨field, value, breach, _⟩ :=
                firstBreach_of_validate_error validToo
              rw [← sameReading forgotten] at breach
              exact not_breaks_of_validate_ok valid _ _ breach.breaks
            · exact not_breaks_of_validate_ok valid _ _ breach.breaks
  | error failure =>
      cases validToo : (validate (second.withOverrides environment)).result with
      | ok secondDone =>
          constructor
          · exact False.elim
          · rintro (forgotten | ⟨field, _, value, _, breach, _⟩)
            · obtain ⟨field, value, breach, _⟩ :=
                firstBreach_of_validate_error valid
              rw [sameReading forgotten] at breach
              exact not_breaks_of_validate_ok validToo _ _ breach.breaks
            · exact not_breaks_of_validate_ok validToo _ _ breach.breaks
      | error other =>
          refine (sameReport_iff_breachedAlike valid validToo).trans ?_
          constructor
          · exact .inr
          · rintro (forgotten | breached)
            · exact breachedAlike_of_reading_eq valid (sameReading forgotten)
            · exact breached

end Validated

/-- Overriding settings that have been validated before has the same outcome as
overriding them as they were, exactly if the validation before leaves no trace
or both are refused alike. -/
theorem override_validated_agrees_iff {settings : Settings}
    (valid : (validate (.ofSettings settings)).result = .ok ()) :
    ((validate (.ofSettings settings)).configuration.override
        environment).Agree ((ofSettings settings).override environment) ↔
      LeavesNoTrace environment settings
          (validate (.ofSettings settings)).configuration.settings ∨
        RefusedAlike environment settings
          (validate (.ofSettings settings)).configuration.settings := by
  obtain ⟨found, accepts⟩ := validate_ok_iff.mp valid
  rw [accepts.validate_eq]
  change Accepts settings.reading found at accepts
  change Validation.Outcome.Agree (override
    ⟨settle settings found, found.derived, true⟩ environment) _ ↔
      LeavesNoTrace environment settings (settle settings found) ∨
        RefusedAlike environment settings (settle settings found)
  cases success : (environment.overrideFields Field.all settings).2 with
  | error cause =>
      have refused : ((ofSettings settings).override environment).result =
          .error (.coercion cause) := override_of_error success
      have refusedBefore (before : Configuration) :
          (before.override environment).result = .error (.coercion cause) := by
        apply override_of_error
        rw [overrideFields_result _ _ _ settings, success]
      simp only [Outcome.Agree, refused, refusedBefore,
        AssemblyError.SameReport, true_iff]
      exact .inr (.inl ⟨cause, success⟩)
  | ok done =>
      refine (override_agree_iff accepts success ?_ ?_ ?_).trans ?_
      · rfl
      · rfl
      · rfl
      · simp only [RefusedAlike, success, reduceCtorEq, exists_false, false_or]

/-- Settings of which a validation settles limits, the path, the URL for
downloads, a provider of authentication, and debugging. -/
def settledSettings : Settings where
  uploadWhitelist := ["10.0.0.0/8"]
  maxFileSizeText := "1 MB"
  defaultLifetimeText := "1d"
  path := "/files//"
  downloadDomain := "https://dl.example.com/"
  googleClientId := "id"
  googleSecret := "secret"
  logLevel := "debug"

/-- A text of a limit, a limit beside such a text, the path, a credential and
both settings of logging. -/
def settledEnvironment : Environment :=
  [("PLIKD_MAX_FILE_SIZE_STR", "2 GB"), ("PLIKD_DEFAULT_TTL", "60"),
   ("PLIKD_PATH", "/other/"), ("PLIKD_GOOGLE_API_SECRET", ""),
   ("PLIKD_LOG_LEVEL", "info"), ("PLIKD_DEBUG", "false")]

/-- What the validation settled is replaced without a trace. -/
theorem settled_override_agrees :
    (validate (.ofSettings settledSettings)).result = .ok () ∧
      (validate (.ofSettings settledSettings)).configuration.settings.debug =
        true ∧
      (((validate (.ofSettings settledSettings)).configuration.override
          settledEnvironment).result = .ok () ∧
        ((validate (.ofSettings settledSettings)).configuration.override
          settledEnvironment).configuration.settings.debug = false) ∧
      ((validate (.ofSettings settledSettings)).configuration.override
        settledEnvironment).Agree
        ((ofSettings settledSettings).override settledEnvironment) := by
  have valid : (validate (.ofSettings settledSettings)).result = .ok () := by
    decide +kernel
  have agrees := @override_validated_agrees_iff settledEnvironment
    settledSettings valid
  have given : settledEnvironment.text? .debug = some "false" ∧
      settledEnvironment.text? .maxFileSizeText = some "2 GB" ∧
      settledEnvironment.text? .defaultLifetimeText = none ∧
      settledEnvironment.text? .maxLifetimeText = none := by
    decide +kernel
  refine ⟨valid, by decide +kernel, by decide +kernel, agrees.mpr (.inl ?_)⟩
  rintro field ⟨absent, ⟨text, form, emptied⟩ | ⟨rfl, _⟩⟩
  · cases field <;> cases form <;> simp [given] at emptied
  · simp [given] at absent

/-- A level of logging that is overridden leaves debugging behind. -/
theorem override_remembers_debugging :
    ¬ ∀ (settings : Settings) (environment : Environment),
      (validate (.ofSettings settings)).result = .ok () →
        ((validate (.ofSettings settings)).configuration.override
          environment).Agree ((ofSettings settings).override environment) := by
  intro agrees
  have valid : (validate (.ofSettings { logLevel := "DEBUG" })).result =
      .ok () := rfl
  have agree := agrees { logLevel := "DEBUG" }
    [("PLIKD_LOG_LEVEL", "INFO")] valid
  obtain ⟨success, silent, debugging⟩ :
      ((ofSettings { logLevel := "DEBUG" }).override
          [("PLIKD_LOG_LEVEL", "INFO")]).result = .ok () ∧
        ((ofSettings { logLevel := "DEBUG" }).override
          [("PLIKD_LOG_LEVEL", "INFO")]).configuration.settings.debug = false ∧
        ((validate (.ofSettings { logLevel := "DEBUG" })).configuration.override
          [("PLIKD_LOG_LEVEL", "INFO")]).configuration.settings.debug =
            true := by
    decide +kernel
  rw [Outcome.Agree, success] at agree
  cases validated : ((validate (.ofSettings
      { logLevel := "DEBUG" })).configuration.override
        [("PLIKD_LOG_LEVEL", "INFO")]).result with
  | ok done =>
      rw [validated] at agree
      rw [agree, silent] at debugging
      cases debugging
  | error cause =>
      rw [validated] at agree
      exact agree

end Configuration

end ServerConfig
