import ServerConfig.Proofs.Text.Trimming
import ServerConfig.Validation

/-!
# Accepted settings

The rules look at settings in a few respects only, which `Settings.reading`
collects; settling a setting on the way does not change them.
`Validation.Accepts` lists what has to hold of the reading, rule by rule and
without a draft.  The main statements say that validation succeeds exactly for
the settings that are accepted, and which configuration it leaves behind.
-/

namespace ServerConfig

namespace Url

/-- The URL of the server does not depend on trailing solidi of the path. -/
theorem ofServer_dropTrailingSlashes (tls : Bool) (address : String)
    (port : Int) (path : String) :
    ofServer tls address port (Text.dropTrailingSlashes path) =
      ofServer tls address port path := by
  unfold ofServer
  rw [Text.dropTrailingSlashes_idem]

theorem ofServer_of_not_isPort {tls : Bool} {address path : String} {port : Int}
    (outside : isPort port = false) :
    ofServer tls address port path = .error (.portOutOfRange port) := by
  simp [ofServer, outside]

theorem ofServer_ne_portOutOfRange {tls : Bool} {address path : String}
    {port culprit : Int} (inside : isPort port = true) :
    ofServer tls address port path ≠ .error (.portOutOfRange culprit) := by
  intro outcome
  simp only [ofServer, inside, Bool.not_true, Bool.false_eq_true, if_false]
    at outcome
  generalize parseAbsolute _ = parsed at outcome
  cases parsed <;> simp [Except.mapError] at outcome

theorem isPort_of_ofServer_ok {tls : Bool} {address path : String} {port : Int}
    {url : Url} (composed : ofServer tls address port path = .ok url) :
    isPort port = true := by
  by_contra outside
  rw [Bool.not_eq_true] at outside
  simp [ofServer_of_not_isPort outside] at composed

theorem isPort_iff {port : Int} :
    isPort port = true ↔ 0 ≤ port ∧ port ≤ 65535 := by
  rw [isPort, Bool.and_eq_true, decide_eq_true_iff, decide_eq_true_iff]
  rfl

end Url

/-- What the rules read off settings. -/
@[ext] structure Reading where
  sizeText : String
  /-- The greatest file size in effect. -/
  size : Except ByteSize.Error Int
  defaultText : String
  /-- The default lifetime in effect. -/
  default : Except Lifetime.Error Int
  greatestText : String
  /-- The greatest lifetime in effect. -/
  greatest : Except Lifetime.Error Int
  uploadWhitelist : List String
  /-- The path without solidi at its end. -/
  path : String
  listenAddress : String
  listenPort : Int
  serverUrl : Except Url.ServerError Url
  /-- The text of the URL for downloads without solidi at its end, if there is
  a text. -/
  download : Option String
  /-- Uploads are refused to everybody who has not signed in. -/
  noAnonymousUploads : Bool
  authentication : Bool

namespace Settings

/-- The greatest file size in effect: the one of the text, if there is a text,
and else the number. -/
def sizeInEffect (text : String) (bytes : Int) :
    Except ByteSize.Error Int :=
  if text = "" then .ok bytes else (ByteSize.parse text).map Int.ofNat

/-- The lifetime in effect: the one of the text, if there is a text, and else
the number of seconds. -/
def lifetimeInEffect (text : String) (seconds : Int) :
    Except Lifetime.Error Int :=
  if text = "" then .ok seconds else Lifetime.parse text

/-- What the rules read off settings. -/
def reading (settings : Settings) : Reading where
  sizeText := settings.maxFileSizeText
  size := sizeInEffect settings.maxFileSizeText settings.maxFileSize
  defaultText := settings.defaultLifetimeText
  default :=
    lifetimeInEffect settings.defaultLifetimeText settings.defaultLifetime
  greatestText := settings.maxLifetimeText
  greatest := lifetimeInEffect settings.maxLifetimeText settings.maxLifetime
  uploadWhitelist := settings.uploadWhitelist
  path := Text.dropTrailingSlashes settings.path
  listenAddress := settings.listenAddress
  listenPort := settings.listenPort
  serverUrl := settings.serverUrl
  download :=
    if settings.downloadDomain = "" then none
    else some (Text.dropTrailingSlashes settings.downloadDomain)
  noAnonymousUploads := settings.noAnonymousUploads
  authentication := settings.authentication

/-- The settings without solidi at the end of the path. -/
def settlePath (settings : Settings) : Settings :=
  settings.put .path (Text.dropTrailingSlashes settings.path)

/-- The settings without solidi at the end of the URL for downloads. -/
def settleDownload (settings : Settings) : Settings :=
  settings.put .downloadDomain
    (Text.dropTrailingSlashes settings.downloadDomain)

/-- Use exactly the providers of authentication that have credentials. -/
def settleProviders (settings : Settings) : Settings :=
  { settings with
    googleAuthentication :=
      !settings.googleClientId.isEmpty && !settings.googleSecret.isEmpty
    ovhAuthentication :=
      !settings.ovhKey.isEmpty && !settings.ovhSecret.isEmpty }

/-- Whether the level of logging makes debugging necessary. -/
def logsDebugging (settings : Settings) : Bool :=
  Text.upperName settings.logLevel = "DEBUG"

/-- Debug where the level of logging makes that necessary. -/
def settleDebugging (settings : Settings) : Settings :=
  settings.put .debug (settings.debug || settings.logsDebugging)

section Readings

variable {settings : Settings}

theorem reading_put_maxFileSize {bytes : Int}
    (inEffect : settings.reading.size = .ok bytes) :
    (settings.put .maxFileSize bytes).reading = settings.reading := by
  have same : sizeInEffect settings.maxFileSizeText bytes =
      settings.reading.size := by
    simp only [reading, sizeInEffect] at inEffect ⊢
    split <;> simp_all
  have unchanged : ({ settings.reading with
      size := sizeInEffect settings.maxFileSizeText bytes } : Reading) =
        settings.reading := by rw [same]
  exact unchanged

theorem lifetimeInEffect_of_eq_ok {text : String} {seconds found : Int}
    (inEffect : lifetimeInEffect text seconds = .ok found) :
    lifetimeInEffect text found = lifetimeInEffect text seconds := by
  simp only [lifetimeInEffect] at inEffect ⊢
  split <;> simp_all

theorem reading_put_defaultLifetime {seconds : Int}
    (inEffect : settings.reading.default = .ok seconds) :
    (settings.put .defaultLifetime seconds).reading = settings.reading := by
  have unchanged : ({ settings.reading with
      default := lifetimeInEffect settings.defaultLifetimeText seconds } :
        Reading) = settings.reading := by
    rw [lifetimeInEffect_of_eq_ok inEffect]
    rfl
  exact unchanged

theorem reading_put_maxLifetime {seconds : Int}
    (inEffect : settings.reading.greatest = .ok seconds) :
    (settings.put .maxLifetime seconds).reading = settings.reading := by
  have unchanged : ({ settings.reading with
      greatest := lifetimeInEffect settings.maxLifetimeText seconds } :
        Reading) = settings.reading := by
    rw [lifetimeInEffect_of_eq_ok inEffect]
    rfl
  exact unchanged

@[simp] theorem reading_settlePath :
    settings.settlePath.reading = settings.reading := by
  have unchanged : ({ settings.reading with
      path := Text.dropTrailingSlashes
        (Text.dropTrailingSlashes settings.path)
      serverUrl := Url.ofServer settings.sslEnabled settings.listenAddress
        settings.listenPort (Text.dropTrailingSlashes settings.path) } :
        Reading) = settings.reading := by
    rw [Text.dropTrailingSlashes_idem, Url.ofServer_dropTrailingSlashes]
    rfl
  exact unchanged

/-- Settling the URL for downloads does not change the reading, unless nothing
but solidi is lost. -/
theorem reading_settleDownload
    (named : settings.reading.download ≠ some "") :
    settings.settleDownload.reading = settings.reading := by
  have same : settings.settleDownload.reading.download =
      settings.reading.download := by
    simp only [reading] at named ⊢
    change (if Text.dropTrailingSlashes settings.downloadDomain = "" then none
      else some (Text.dropTrailingSlashes
        (Text.dropTrailingSlashes settings.downloadDomain))) = _
    rw [Text.dropTrailingSlashes_idem]
    by_cases absent : settings.downloadDomain = ""
    · simp [absent]
    · have left : Text.dropTrailingSlashes settings.downloadDomain ≠ "" := by
        simpa [absent] using named
      simp [absent, left]
  have unchanged : ({ settings.reading with
      download := settings.settleDownload.reading.download } : Reading) =
        settings.reading := by rw [same]
  exact unchanged

@[simp] theorem reading_settleProviders :
    settings.settleProviders.reading = settings.reading :=
  rfl

@[simp] theorem reading_settleDebugging :
    settings.settleDebugging.reading = settings.reading :=
  rfl

end Readings

end Settings

namespace Validation

/-- What a successful validation finds out. -/
@[ext] structure Findings where
  size : Int
  default : Int
  greatest : Int
  whitelist : Whitelist
  serverUrl : Url
  downloadUrl : Option Url

/-- What is derived from settings with given findings. -/
def Findings.derived (found : Findings) : Derived where
  whitelist := found.whitelist
  serverUrl := some found.serverUrl
  downloadUrl := found.downloadUrl

/-- The settings with the numbers that were found for the limits. -/
def settleLimits (settings : Settings) (found : Findings) : Settings :=
  ((settings.put .maxFileSize found.size).put .defaultLifetime
    found.default).put .maxLifetime found.greatest

/-- The settings as a successful validation leaves them. -/
def settle (settings : Settings) (found : Findings) : Settings :=
  (settleLimits settings found).settlePath.settleDownload.settleProviders
    |>.settleDebugging

/-- The URL for downloads that a reading names, if it names one. -/
def Downloads (reading : Reading) : Option Url → Prop
  | none => reading.download = none
  | some url =>
      ∃ text, reading.download = some text ∧ Url.parseAbsolute text = .ok url

/-- Settings with this reading break no rule, and these are the findings. -/
structure Accepts (reading : Reading) (found : Findings) : Prop where
  size : reading.size = .ok found.size
  default : reading.default = .ok found.default
  greatest : reading.greatest = .ok found.greatest
  bounds : found.greatest < 0 ∨ found.default ≤ found.greatest
  whitelist : Whitelist.compile (reading.uploadWhitelist.map some) =
    .ok found.whitelist
  path : reading.path = "" ∨ reading.path.toList.head? = some '/'
  serverUrl : reading.serverUrl = .ok found.serverUrl
  download : Downloads reading found.downloadUrl
  authentication : reading.noAnonymousUploads = true →
    reading.authentication = true

theorem Downloads.unique {reading : Reading} {first second : Option Url}
    (download : Downloads reading first) (again : Downloads reading second) :
    first = second := by
  cases first with
  | none =>
      cases second with
      | none => rfl
      | some url =>
          obtain ⟨text, named, _⟩ := again
          cases download.symm.trans named
  | some url =>
      obtain ⟨text, named, read⟩ := download
      cases second with
      | none => cases named.symm.trans again
      | some other =>
          obtain ⟨same, again, reread⟩ := again
          cases named.symm.trans again
          cases read.symm.trans reread
          rfl

theorem Accepts.unique {reading : Reading} {found other : Findings}
    (accepts : Accepts reading found) (again : Accepts reading other) :
    found = other := by
  apply Findings.ext
  case size => exact Except.ok.inj (accepts.size.symm.trans again.size)
  case default =>
    exact Except.ok.inj (accepts.default.symm.trans again.default)
  case greatest =>
    exact Except.ok.inj (accepts.greatest.symm.trans again.greatest)
  case whitelist =>
    exact Except.ok.inj (accepts.whitelist.symm.trans again.whitelist)
  case serverUrl =>
    exact Except.ok.inj (accepts.serverUrl.symm.trans again.serverUrl)
  case downloadUrl => exact accepts.download.unique again.download

/-! ## What a rule does that passes -/

namespace Draft

def enterWhitelist (draft : Draft) (whitelist : Whitelist) : Draft :=
  { draft with
    derived := { draft.derived with whitelist }
    records := draft.records ++ whitelistRecords whitelist }

def enterServerUrl (draft : Draft) (url : Url) : Draft :=
  { draft with derived := { draft.derived with serverUrl := some url } }

def enterDownloadUrl (draft : Draft) (downloadUrl : Option Url) : Draft :=
  { draft with derived := { draft.derived with downloadUrl } }

variable {draft next : Draft}

@[simp] theorem modify_settings (change : Settings → Settings) :
    (draft.modify change).settings = change draft.settings :=
  rfl

@[simp] theorem enterWhitelist_settings (whitelist : Whitelist) :
    (draft.enterWhitelist whitelist).settings = draft.settings :=
  rfl

@[simp] theorem enterServerUrl_settings (url : Url) :
    (draft.enterServerUrl url).settings = draft.settings :=
  rfl

@[simp] theorem enterDownloadUrl_settings (downloadUrl : Option Url) :
    (draft.enterDownloadUrl downloadUrl).settings = draft.settings :=
  rfl

@[simp] theorem pass_eq_iff : draft.pass = (next, none) ↔ next = draft := by
  simp [pass, eq_comm]

@[simp] theorem stop_ne_pass (cause : Violation) :
    draft.stop cause ≠ (next, none) := by
  simp [stop]

end Draft

section Rules

variable {draft next : Draft}

theorem fileSizeRule_eq (draft : Draft) :
    fileSizeRule draft =
      match draft.settings.reading.size with
      | .ok bytes => (draft.modify (·.put .maxFileSize bytes)).pass
      | .error cause => draft.stop (.fileSize cause) := by
  simp only [fileSizeRule, Settings.reading, Settings.sizeInEffect,
    String.isEmpty_iff]
  split
  · rfl
  · cases ByteSize.parse draft.settings.maxFileSizeText <;> rfl

theorem fileSizeRule_passes :
    fileSizeRule draft = (next, none) ↔
      ∃ bytes, draft.settings.reading.size = .ok bytes ∧
        next = draft.modify (·.put .maxFileSize bytes) := by
  rw [fileSizeRule_eq]
  split <;> rename_i inEffect <;> simp [inEffect]

theorem defaultLifetimeRule_eq (draft : Draft) :
    defaultLifetimeRule draft =
      match draft.settings.reading.default with
      | .ok seconds => (draft.modify (·.put .defaultLifetime seconds)).pass
      | .error cause =>
          draft.stop (.lifetime .defaultLifetimeText
            draft.settings.reading.defaultText cause) := by
  simp only [defaultLifetimeRule, Settings.reading, Settings.lifetimeInEffect,
    String.isEmpty_iff]
  split
  · rfl
  · cases Lifetime.parse draft.settings.defaultLifetimeText <;> rfl

theorem defaultLifetimeRule_passes :
    defaultLifetimeRule draft = (next, none) ↔
      ∃ seconds, draft.settings.reading.default = .ok seconds ∧
        next = draft.modify (·.put .defaultLifetime seconds) := by
  rw [defaultLifetimeRule_eq]
  split <;> rename_i inEffect <;> simp [inEffect]

theorem maxLifetimeRule_eq (draft : Draft) :
    maxLifetimeRule draft =
      match draft.settings.reading.greatest with
      | .ok seconds => (draft.modify (·.put .maxLifetime seconds)).pass
      | .error cause =>
          draft.stop (.lifetime .maxLifetimeText
            draft.settings.reading.greatestText cause) := by
  simp only [maxLifetimeRule, Settings.reading, Settings.lifetimeInEffect,
    String.isEmpty_iff]
  split
  · rfl
  · cases Lifetime.parse draft.settings.maxLifetimeText <;> rfl

theorem maxLifetimeRule_passes :
    maxLifetimeRule draft = (next, none) ↔
      ∃ seconds, draft.settings.reading.greatest = .ok seconds ∧
        next = draft.modify (·.put .maxLifetime seconds) := by
  rw [maxLifetimeRule_eq]
  split <;> rename_i inEffect <;> simp [inEffect]

theorem lifetimeBoundsRule_passes :
    lifetimeBoundsRule draft = (next, none) ↔
      (draft.settings.maxLifetime < 0 ∨
        draft.settings.defaultLifetime ≤ draft.settings.maxLifetime) ∧
      next = draft := by
  unfold lifetimeBoundsRule
  dsimp only
  split
  · rename_i exceeded
    simp only [Bool.and_eq_true, decide_eq_true_eq] at exceeded
    have outside : ¬ (draft.settings.maxLifetime < 0 ∨
        draft.settings.defaultLifetime ≤ draft.settings.maxLifetime) := by omega
    split <;> simp [outside]
  · rename_i within
    simp only [Bool.and_eq_true, decide_eq_true_eq] at within
    have inside : draft.settings.maxLifetime < 0 ∨
        draft.settings.defaultLifetime ≤ draft.settings.maxLifetime := by omega
    simp [inside]

theorem whitelistRule_passes :
    whitelistRule draft = (next, none) ↔
      ∃ whitelist,
        Whitelist.compile (draft.settings.reading.uploadWhitelist.map some) =
          .ok whitelist ∧
        next = draft.enterWhitelist whitelist := by
  unfold whitelistRule
  split <;> rename_i compiled <;>
    simp [compiled, Draft.enterWhitelist, Settings.reading]

theorem pathRule_eq (draft : Draft) :
    pathRule draft =
      if draft.settings.reading.path.isEmpty ||
          draft.settings.reading.path.toList.head? = some '/' then
        (draft.modify Settings.settlePath).pass
      else
        (draft.modify Settings.settlePath).stop
          (.path draft.settings.reading.path) :=
  rfl

theorem pathRule_passes :
    pathRule draft = (next, none) ↔
      (draft.settings.reading.path = "" ∨
        draft.settings.reading.path.toList.head? = some '/') ∧
      next = draft.modify Settings.settlePath := by
  rw [pathRule_eq]
  split <;> rename_i rooted <;>
    simp only [Bool.or_eq_true, String.isEmpty_iff, decide_eq_true_eq] at rooted
  · simp only [Draft.pass_eq_iff, rooted, true_and]
  · simp only [Draft.stop_ne_pass, rooted, false_and]

theorem serverRule_passes :
    serverRule draft = (next, none) ↔
      ∃ url, draft.settings.reading.serverUrl = .ok url ∧
        next = draft.enterServerUrl url := by
  unfold serverRule
  split <;> rename_i composed <;>
    simp [composed, Draft.enterServerUrl, Settings.reading]

theorem downloadRule_eq (draft : Draft) :
    downloadRule draft =
      match draft.settings.reading.download with
      | none =>
          ((draft.modify Settings.settleDownload).enterDownloadUrl none).pass
      | some text =>
          match Url.parseAbsolute text with
          | .error cause =>
              (draft.modify Settings.settleDownload).stop
                (.downloadDomain text cause)
          | .ok url =>
              ((draft.modify Settings.settleDownload).enterDownloadUrl
                (some url)).pass := by
  simp only [downloadRule, Settings.reading, String.isEmpty_iff]
  by_cases absent : draft.settings.downloadDomain = ""
  · have kept : draft.settings.settleDownload = draft.settings := by
      have same : Text.dropTrailingSlashes draft.settings.downloadDomain =
          draft.settings.downloadDomain := by simp [absent]
      rw [Settings.settleDownload, same]
      exact draft.settings.put_get .downloadDomain
    simp [absent, Draft.modify, Draft.enterDownloadUrl, kept]
  · simp only [if_neg absent]
    cases Url.parseAbsolute
        (Text.dropTrailingSlashes draft.settings.downloadDomain) <;> rfl

theorem downloadRule_passes :
    downloadRule draft = (next, none) ↔
      ∃ downloadUrl, Downloads draft.settings.reading downloadUrl ∧
        next = (draft.modify Settings.settleDownload).enterDownloadUrl
          downloadUrl := by
  rw [downloadRule_eq]
  cases named : draft.settings.reading.download with
  | none =>
      rw [Draft.pass_eq_iff]
      constructor
      · intro passed
        exact ⟨none, named, passed⟩
      · rintro ⟨downloadUrl, download, passed⟩
        cases downloadUrl with
        | none => exact passed
        | some url => simp [Downloads, named] at download
  | some text =>
      dsimp only
      split <;> rename_i read
      · simp only [Draft.stop_ne_pass, false_iff]
        rintro ⟨downloadUrl, download, _⟩
        cases downloadUrl <;> simp [Downloads, named, read] at download
      · rw [Draft.pass_eq_iff]
        constructor
        · intro passed
          exact ⟨some _, ⟨text, named, read⟩, passed⟩
        · rintro ⟨downloadUrl, download, passed⟩
          cases downloadUrl with
          | none => simp [Downloads, named] at download
          | some url =>
              simp only [Downloads, named, Option.some.injEq,
                exists_eq_left', read, Except.ok.injEq] at download
              rw [download]
              exact passed

theorem authenticationRule_eq (draft : Draft) :
    authenticationRule draft =
      if draft.settings.noAnonymousUploads &&
          !draft.settings.authentication then
        (draft.modify Settings.settleProviders).stop .anonymousUploads
      else (draft.modify Settings.settleProviders).pass :=
  rfl

theorem authenticationRule_passes :
    authenticationRule draft = (next, none) ↔
      (draft.settings.reading.noAnonymousUploads = true →
        draft.settings.reading.authentication = true) ∧
      next = draft.modify Settings.settleProviders := by
  rw [authenticationRule_eq]
  split <;> rename_i refused
  · simp only [Bool.and_eq_true, Bool.not_eq_true'] at refused
    simp [refused, Settings.reading]
  · simp only [Bool.and_eq_true, Bool.not_eq_true', not_and,
      Bool.not_eq_false] at refused
    simp only [Draft.pass_eq_iff, iff_and_self]
    exact fun _ => refused

theorem debugRule_passes :
    debugRule draft = (next, none) ↔
      next = draft.modify Settings.settleDebugging := by
  unfold debugRule Settings.settleDebugging Settings.logsDebugging
  split <;> rename_i level <;> simp [level, Draft.modify, Settings.put]

end Rules

/-! ## Whole validations -/

theorem applyRules_nil_passes {draft final : Draft} :
    applyRules [] draft = (final, none) ↔ final = draft :=
  Draft.pass_eq_iff

theorem applyRules_cons_passes {rule : Rule} {rest : List Rule}
    {draft final : Draft} :
    applyRules (rule :: rest) draft = (final, none) ↔
      ∃ next, rule draft = (next, none) ∧
        applyRules rest next = (final, none) := by
  cases outcome : rule draft with
  | mk next failure => cases failure <;> simp [applyRules, outcome]

section Settling

variable {settings : Settings} {found : Findings}

theorem Accepts.reading_settleLimits
    (accepts : Accepts settings.reading found) :
    (settleLimits settings found).reading = settings.reading := by
  have sizeKept := Settings.reading_put_maxFileSize accepts.size
  have defaultKept : ((settings.put .maxFileSize found.size).put
      .defaultLifetime found.default).reading = settings.reading := by
    rw [Settings.reading_put_defaultLifetime, sizeKept]
    rw [sizeKept]
    exact accepts.default
  rw [settleLimits, Settings.reading_put_maxLifetime, defaultKept]
  rw [defaultKept]
  exact accepts.greatest

theorem Downloads.ne_empty {reading : Reading} {downloadUrl : Option Url}
    (download : Downloads reading downloadUrl) :
    reading.download ≠ some "" := by
  intro empty
  cases downloadUrl with
  | none => simp [Downloads, empty] at download
  | some url =>
      rw [Downloads, empty] at download
      obtain ⟨text, same, read⟩ := download
      cases same
      cases read

/-- Settling accepted settings does not change what the rules read off them. -/
theorem Accepts.reading_settle (accepts : Accepts settings.reading found) :
    (settle settings found).reading = settings.reading := by
  have limitsKept := accepts.reading_settleLimits
  simp only [settle, Settings.reading_settleDebugging,
    Settings.reading_settleProviders]
  rw [Settings.reading_settleDownload, Settings.reading_settlePath, limitsKept]
  rw [Settings.reading_settlePath, limitsKept]
  exact accepts.download.ne_empty

end Settling

/-- The draft that the rules leave when none of them is broken. -/
def Findings.draft (found : Findings) (settings : Settings) : Draft where
  settings := settle settings found
  derived := found.derived
  records := whitelistRecords found.whitelist

theorem passes_of_accepts {settings : Settings} {found : Findings}
    (accepts : Accepts settings.reading found) :
    applyRules rules { settings } = (found.draft settings, none) := by
  have sizeKept := Settings.reading_put_maxFileSize accepts.size
  have defaultKept : ((settings.put .maxFileSize found.size).put
      .defaultLifetime found.default).reading = settings.reading := by
    rw [Settings.reading_put_defaultLifetime, sizeKept]
    rw [sizeKept]
    exact accepts.default
  have limitsKept := accepts.reading_settleLimits
  have pathKept := (settleLimits settings found).reading_settlePath
  rw [limitsKept] at pathKept
  have named : (settleLimits settings found).settlePath.reading.download ≠
      some "" := by
    rw [pathKept]
    exact accepts.download.ne_empty
  have downloadKept := Settings.reading_settleDownload named
  rw [pathKept] at downloadKept
  simp only [rules, applyRules_cons_passes, applyRules_nil_passes]
  refine ⟨_, fileSizeRule_passes.mpr ⟨_, accepts.size, rfl⟩, ?_⟩
  refine ⟨_, defaultLifetimeRule_passes.mpr ⟨found.default, ?_, rfl⟩, ?_⟩
  · rw [Draft.modify_settings, sizeKept]
    exact accepts.default
  refine ⟨_, maxLifetimeRule_passes.mpr ⟨found.greatest, ?_, rfl⟩, ?_⟩
  · rw [Draft.modify_settings, Draft.modify_settings, defaultKept]
    exact accepts.greatest
  refine ⟨_, lifetimeBoundsRule_passes.mpr ⟨accepts.bounds, rfl⟩, ?_⟩
  refine ⟨_, whitelistRule_passes.mpr ⟨found.whitelist, ?_, rfl⟩, ?_⟩
  · change Whitelist.compile ((settleLimits settings found).reading
      |>.uploadWhitelist.map some) = _
    rw [limitsKept]
    exact accepts.whitelist
  refine ⟨_, pathRule_passes.mpr ⟨?_, rfl⟩, ?_⟩
  · change (settleLimits settings found).reading.path = "" ∨
      (settleLimits settings found).reading.path.toList.head? = some '/'
    rw [limitsKept]
    exact accepts.path
  refine ⟨_, serverRule_passes.mpr ⟨found.serverUrl, ?_, rfl⟩, ?_⟩
  · change (settleLimits settings found).settlePath.reading.serverUrl = _
    rw [pathKept]
    exact accepts.serverUrl
  refine ⟨_, downloadRule_passes.mpr ⟨found.downloadUrl, ?_, rfl⟩, ?_⟩
  · change Downloads (settleLimits settings found).settlePath.reading _
    rw [pathKept]
    exact accepts.download
  refine ⟨_, authenticationRule_passes.mpr ⟨?_, rfl⟩, ?_⟩
  · have authenticated := accepts.authentication
    rw [← downloadKept] at authenticated
    exact authenticated
  exact ⟨_, debugRule_passes.mpr rfl, rfl⟩

/-- The rules are passed by accepted settings only. -/
theorem accepts_of_passes {settings : Settings} {final : Draft}
    (passes : applyRules rules { settings } = (final, none)) :
    ∃ found, Accepts settings.reading found := by
  simp only [rules, applyRules_cons_passes, applyRules_nil_passes,
    fileSizeRule_passes, defaultLifetimeRule_passes, maxLifetimeRule_passes,
    lifetimeBoundsRule_passes, whitelistRule_passes, pathRule_passes,
    serverRule_passes, downloadRule_passes, authenticationRule_passes]
    at passes
  obtain ⟨_, ⟨size, sizeFound, rfl⟩, _, ⟨default, defaultFound, rfl⟩,
    _, ⟨greatest, greatestFound, rfl⟩, _, ⟨bounds, rfl⟩,
    _, ⟨whitelist, compiled, rfl⟩, _, ⟨path, rfl⟩,
    _, ⟨serverUrl, composed, rfl⟩, _, ⟨downloadUrl, download, rfl⟩,
    _, ⟨authentication, rfl⟩, _⟩ := passes
  simp only [Draft.modify_settings, Draft.enterWhitelist_settings,
    Draft.enterServerUrl_settings, Settings.reading_settlePath]
    at sizeFound defaultFound greatestFound compiled path composed download
  simp only [Draft.modify_settings, Draft.enterWhitelist_settings,
    Draft.enterServerUrl_settings, Draft.enterDownloadUrl_settings]
    at authentication
  have sizeKept := Settings.reading_put_maxFileSize sizeFound
  have defaultKept := Settings.reading_put_defaultLifetime defaultFound
  have greatestKept := Settings.reading_put_maxLifetime greatestFound
  rw [defaultKept, sizeKept] at greatestKept greatestFound
  rw [sizeKept] at defaultFound
  rw [greatestKept] at compiled path composed download
  have downloadKept := Settings.reading_settleDownload
    (by rw [Settings.reading_settlePath, greatestKept]; exact download.ne_empty)
  rw [Settings.reading_settlePath, greatestKept] at downloadKept
  rw [downloadKept] at authentication
  refine ⟨⟨size, default, greatest, whitelist, serverUrl, downloadUrl⟩,
    sizeFound, defaultFound, greatestFound, ?_, compiled, path, composed,
    download, authentication⟩
  exact bounds

/-- The rules are passed exactly by accepted settings. -/
theorem applyRules_passes {settings : Settings} {final : Draft} :
    applyRules rules { settings } = (final, none) ↔
      ∃ found, Accepts settings.reading found ∧
        final = found.draft settings := by
  constructor
  · intro passes
    obtain ⟨found, accepts⟩ := accepts_of_passes passes
    rw [passes_of_accepts accepts, Prod.mk.injEq] at passes
    exact ⟨found, accepts, passes.1.symm⟩
  · rintro ⟨found, accepts, rfl⟩
    exact passes_of_accepts accepts

/-- Exactly the validation of accepted settings succeeds. -/
theorem validate_ok_iff {configuration : Configuration} :
    (validate configuration).result = .ok () ↔
      ∃ found, Accepts configuration.settings.reading found := by
  unfold validate
  split <;> rename_i outcome
  · simp only [reduceCtorEq, false_iff]
    rintro ⟨found, accepts⟩
    have passed := applyRules_passes.mpr ⟨found, accepts, rfl⟩
    simp [passed] at outcome
  · simp only [true_iff]
    obtain ⟨found, accepts, _⟩ := applyRules_passes.mp outcome
    exact ⟨found, accepts⟩

/-- What a validation of accepted settings leaves behind. -/
theorem Accepts.validate_eq {configuration : Configuration} {found : Findings}
    (accepts : Accepts configuration.settings.reading found) :
    validate configuration =
      { configuration :=
          { configuration with
            settings := settle configuration.settings found
            derived := found.derived }
        records :=
          whitelistRecords found.whitelist ++ [validatedRecord found.derived]
        result := .ok () } := by
  have passed := applyRules_passes.mpr ⟨found, accepts, rfl⟩
  simp only [validate, passed]
  rfl

/-- A failed validation changes settings only. -/
theorem validate_kept_of_error {configuration : Configuration}
    {failure : Failure}
    (failed : (validate configuration).result = .error failure) :
    (validate configuration).configuration.derived = configuration.derived ∧
      (validate configuration).configuration.autoClean =
        configuration.autoClean := by
  revert failed
  unfold validate
  split
  · intro _
    exact ⟨rfl, rfl⟩
  · intro failed
    cases failed

end Validation

end ServerConfig
