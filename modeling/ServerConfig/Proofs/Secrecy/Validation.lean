import ServerConfig.Proofs.FieldNames
import ServerConfig.Proofs.Layering

/-!
# Validating settings that differ in secrets

Validation reads secrets only to see whether they are empty.  Settings look
alike if they differ in secrets alone, of which both or neither are empty.
Each rule keeps drafts alike and stops them for the same reason, so a whole
validation does as well.
-/

namespace ServerConfig

open Validation

/-- Two values of a setting look alike: they are the same, or they are secrets
of which both or neither are the empty text. -/
def Field.LooksAlike (field : Field) (first second : field.kind.Carrier) :
    Prop :=
  first = second ∨
    field.isSecret = true ∧
      (field.kind.toJson first = .string "" ↔
        field.kind.toJson second = .string "")

namespace Field.LooksAlike

variable {field : Field} {first second : field.kind.Carrier}

theorem refl (field : Field) (value : field.kind.Carrier) :
    field.LooksAlike value value :=
  .inl rfl

theorem eq_of_public (alike : field.LooksAlike first second)
    (visible : field.isSecret = false) : first = second := by
  rcases alike with same | ⟨secret, _⟩
  · exact same
  · rw [visible] at secret
    cases secret

theorem empty_iff (alike : field.LooksAlike first second) :
    field.kind.toJson first = .string "" ↔
      field.kind.toJson second = .string "" := by
  rcases alike with same | ⟨_, empty⟩
  · rw [same]
  · exact empty

end Field.LooksAlike

namespace Settings

/-- Settings that differ in secrets alone. -/
def LooksAlike (settings other : Settings) : Prop :=
  ∀ field : Field,
    Field.LooksAlike field (settings.get field) (other.get field)

def withSecrets (settings : Settings) (google ovh : String) : Settings :=
  { settings with googleSecret := google, ovhSecret := ovh }

namespace LooksAlike

variable {settings other : Settings}

theorem refl (settings : Settings) : settings.LooksAlike settings :=
  fun field => Field.LooksAlike.refl field (settings.get field)

theorem put (alike : settings.LooksAlike other) (field : Field)
    {first second : field.kind.Carrier}
    (values : field.LooksAlike first second) :
    (settings.put field first).LooksAlike (other.put field second) := by
  intro place
  by_cases same : place = field
  · subst same
    rw [settings.get_put_self, other.get_put_self]
    exact values
  · rw [settings.get_put_of_ne same, other.get_put_of_ne same]
    exact alike place

theorem putSame (alike : settings.LooksAlike other) (field : Field)
    (value : field.kind.Carrier) :
    (settings.put field value).LooksAlike (other.put field value) :=
  alike.put field (.refl field value)

theorem get_eq (alike : settings.LooksAlike other) (field : Field)
    (visible : field.isSecret = false) :
    settings.get field = other.get field :=
  (alike field).eq_of_public visible

/-- What does not read secrets has the same value for settings that look
alike: it does not notice that they are replaced. -/
theorem eq_withSecrets (alike : settings.LooksAlike other) :
    other = settings.withSecrets other.googleSecret other.ovhSecret := by
  apply ext_get
  intro field
  cases field
  case googleSecret => rfl
  case ovhSecret => rfl
  all_goals exact (alike.get_eq _ rfl).symm

theorem reading (alike : settings.LooksAlike other) :
    settings.reading = other.reading := by
  rw [alike.eq_withSecrets]
  rfl

theorem googleSecret (alike : settings.LooksAlike other) :
    settings.googleSecret.isEmpty = other.googleSecret.isEmpty := by
  have empty : Json.string settings.googleSecret = .string "" ↔
      Json.string other.googleSecret = .string "" :=
    (alike .googleSecret).empty_iff
  rw [Bool.eq_iff_iff, String.isEmpty_iff, String.isEmpty_iff]
  simpa using empty

theorem ovhSecret (alike : settings.LooksAlike other) :
    settings.ovhSecret.isEmpty = other.ovhSecret.isEmpty := by
  have empty : Json.string settings.ovhSecret = .string "" ↔
      Json.string other.ovhSecret = .string "" :=
    (alike .ovhSecret).empty_iff
  rw [Bool.eq_iff_iff, String.isEmpty_iff, String.isEmpty_iff]
  simpa using empty

theorem settlePath (alike : settings.LooksAlike other) :
    settings.settlePath.LooksAlike other.settlePath := by
  have path : settings.path = other.path := alike.get_eq .path rfl
  rw [Settings.settlePath, Settings.settlePath, path]
  exact alike.putSame .path _

theorem settleDownload (alike : settings.LooksAlike other) :
    settings.settleDownload.LooksAlike other.settleDownload := by
  have domain : settings.downloadDomain = other.downloadDomain :=
    alike.get_eq .downloadDomain rfl
  rw [Settings.settleDownload, Settings.settleDownload, domain]
  exact alike.putSame .downloadDomain _

theorem settleProviders (alike : settings.LooksAlike other) :
    settings.settleProviders.LooksAlike other.settleProviders := by
  have client : settings.googleClientId = other.googleClientId :=
    alike.get_eq .googleClientId rfl
  have key : settings.ovhKey = other.ovhKey := alike.get_eq .ovhKey rfl
  have settles (before : Settings) : before.settleProviders =
      (before.put .googleAuthentication
        (!before.googleClientId.isEmpty && !before.googleSecret.isEmpty)).put
        .ovhAuthentication
        (!before.ovhKey.isEmpty && !before.ovhSecret.isEmpty) := rfl
  rw [settles, settles, client, key, alike.googleSecret, alike.ovhSecret]
  exact (alike.putSame .googleAuthentication _).putSame .ovhAuthentication _

theorem settleDebugging (alike : settings.LooksAlike other) :
    settings.settleDebugging.LooksAlike other.settleDebugging := by
  have level : settings.logLevel = other.logLevel :=
    alike.get_eq .logLevel rfl
  have debug : settings.debug = other.debug := alike.get_eq .debug rfl
  rw [Settings.settleDebugging, Settings.settleDebugging, logsDebugging,
    logsDebugging, level, debug]
  exact alike.putSame .debug _

end LooksAlike

end Settings

namespace Validation

/-! ## Rules -/

/-- Drafts that differ in secrets alone. -/
structure Draft.LooksAlike (draft other : Draft) : Prop where
  settings : draft.settings.LooksAlike other.settings
  derived : draft.derived = other.derived
  records : draft.records = other.records

/-- Two drafts go on alike, or stop alike for the same reason. -/
inductive EndAlike :
    Draft × Option Failure → Draft × Option Failure → Prop where
  | intro {draft other : Draft} (failure : Option Failure) :
      draft.LooksAlike other →
      EndAlike (draft, failure) (other, failure)

def IgnoresSecrets (rule : Rule) : Prop :=
  ∀ ⦃draft other : Draft⦄, draft.LooksAlike other →
    EndAlike (rule draft) (rule other)

namespace Draft.LooksAlike

variable {draft other : Draft}

theorem pass (alike : draft.LooksAlike other) :
    EndAlike draft.pass other.pass :=
  .intro none alike

theorem stop (alike : draft.LooksAlike other) (cause : Violation) :
    EndAlike (draft.stop cause) (other.stop cause) :=
  .intro _ alike

theorem modify (alike : draft.LooksAlike other) {change : Settings → Settings}
    (keeps : (change draft.settings).LooksAlike (change other.settings)) :
    (draft.modify change).LooksAlike (other.modify change) :=
  ⟨keeps, alike.derived, alike.records⟩

theorem put (alike : draft.LooksAlike other) (field : Field)
    (value : field.kind.Carrier) :
    (draft.modify (·.put field value)).LooksAlike
      (other.modify (·.put field value)) :=
  alike.modify (alike.settings.putSame field value)

theorem enterWhitelist (alike : draft.LooksAlike other)
    (whitelist : Whitelist) :
    (draft.enterWhitelist whitelist).LooksAlike
      (other.enterWhitelist whitelist) := by
  constructor
  · exact alike.settings
  · simp only [Draft.enterWhitelist, alike.derived]
  · simp only [Draft.enterWhitelist, alike.records]

theorem enterServerUrl (alike : draft.LooksAlike other) (url : Url) :
    (draft.enterServerUrl url).LooksAlike (other.enterServerUrl url) := by
  constructor
  · exact alike.settings
  · simp only [Draft.enterServerUrl, alike.derived]
  · exact alike.records

theorem enterDownloadUrl (alike : draft.LooksAlike other)
    (url : Option Url) :
    (draft.enterDownloadUrl url).LooksAlike (other.enterDownloadUrl url) := by
  constructor
  · exact alike.settings
  · simp only [Draft.enterDownloadUrl, alike.derived]
  · exact alike.records

end Draft.LooksAlike

theorem fileSizeRule_ignoresSecrets : IgnoresSecrets fileSizeRule := by
  intro draft other alike
  rw [fileSizeRule_eq, fileSizeRule_eq, alike.settings.reading]
  cases other.settings.reading.size with
  | ok bytes => exact (alike.put .maxFileSize bytes).pass
  | error cause => exact alike.stop _

theorem defaultLifetimeRule_ignoresSecrets :
    IgnoresSecrets defaultLifetimeRule := by
  intro draft other alike
  rw [defaultLifetimeRule_eq, defaultLifetimeRule_eq, alike.settings.reading]
  cases other.settings.reading.default with
  | ok seconds => exact (alike.put .defaultLifetime seconds).pass
  | error cause => exact alike.stop _

theorem maxLifetimeRule_ignoresSecrets :
    IgnoresSecrets maxLifetimeRule := by
  intro draft other alike
  rw [maxLifetimeRule_eq, maxLifetimeRule_eq, alike.settings.reading]
  cases other.settings.reading.greatest with
  | ok seconds => exact (alike.put .maxLifetime seconds).pass
  | error cause => exact alike.stop _

theorem lifetimeBoundsRule_ignoresSecrets :
    IgnoresSecrets lifetimeBoundsRule := by
  intro draft other alike
  have default : draft.settings.defaultLifetime =
      other.settings.defaultLifetime :=
    alike.settings.get_eq .defaultLifetime rfl
  have greatest : draft.settings.maxLifetime = other.settings.maxLifetime :=
    alike.settings.get_eq .maxLifetime rfl
  unfold lifetimeBoundsRule
  dsimp only
  rw [default, greatest]
  split
  · split
    · exact alike.stop _
    · exact .intro _ alike
    · exact .intro _ alike
  · exact alike.pass

theorem whitelistRule_ignoresSecrets : IgnoresSecrets whitelistRule := by
  intro draft other alike
  have entries : draft.settings.uploadWhitelist =
      other.settings.uploadWhitelist :=
    alike.settings.get_eq .uploadWhitelist rfl
  unfold whitelistRule
  rw [entries]
  split
  · exact alike.stop _
  · exact (alike.enterWhitelist _).pass

theorem pathRule_ignoresSecrets : IgnoresSecrets pathRule := by
  intro draft other alike
  have settled := alike.modify alike.settings.settlePath
  rw [pathRule_eq, pathRule_eq, alike.settings.reading]
  split
  · exact settled.pass
  · exact settled.stop _

theorem serverRule_ignoresSecrets : IgnoresSecrets serverRule := by
  intro draft other alike
  have composed : draft.settings.serverUrl = other.settings.serverUrl :=
    congrArg Reading.serverUrl alike.settings.reading
  have address : draft.settings.listenAddress = other.settings.listenAddress :=
    alike.settings.get_eq .listenAddress rfl
  unfold serverRule
  rw [composed, address]
  split
  · exact (alike.enterServerUrl _).pass
  · exact alike.stop _
  · exact alike.stop _

theorem downloadRule_ignoresSecrets : IgnoresSecrets downloadRule := by
  intro draft other alike
  have settled := alike.modify alike.settings.settleDownload
  rw [downloadRule_eq, downloadRule_eq, alike.settings.reading]
  cases other.settings.reading.download with
  | none => exact (settled.enterDownloadUrl none).pass
  | some text =>
      dsimp only
      cases Url.parseAbsolute text with
      | error cause => exact settled.stop _
      | ok url => exact (settled.enterDownloadUrl (some url)).pass

theorem authenticationRule_ignoresSecrets :
    IgnoresSecrets authenticationRule := by
  intro draft other alike
  have refuses : draft.settings.noAnonymousUploads =
      other.settings.noAnonymousUploads :=
    alike.settings.get_eq .noAnonymousUploads rfl
  have authenticates : draft.settings.authentication =
      other.settings.authentication :=
    alike.settings.get_eq .authentication rfl
  have settled := alike.modify alike.settings.settleProviders
  rw [authenticationRule_eq, authenticationRule_eq, refuses, authenticates]
  split
  · exact settled.stop _
  · exact settled.pass

theorem debugRule_ignoresSecrets : IgnoresSecrets debugRule := by
  intro draft other alike
  have level : draft.settings.logLevel = other.settings.logLevel :=
    alike.settings.get_eq .logLevel rfl
  unfold debugRule
  rw [level]
  split
  · exact (alike.put .debug true).pass
  · exact alike.pass

/-! ## Whole validations -/

private theorem applyRules_ignoresSecrets {order : List Rule}
    (ignorant : ∀ rule ∈ order, IgnoresSecrets rule) :
    IgnoresSecrets (applyRules order) := by
  induction order with
  | nil =>
      intro draft other alike
      exact alike.pass
  | cons rule rest ih =>
      intro draft other alike
      have ends := ignorant rule List.mem_cons_self alike
      have later := ih fun other member =>
        ignorant other (List.mem_cons_of_mem _ member)
      rw [applyRules, applyRules]
      generalize rule draft = first at ends ⊢
      generalize rule other = second at ends ⊢
      obtain ⟨failure, nextAlike⟩ := ends
      cases failure with
      | none => exact later nextAlike
      | some cause => exact .intro (some cause) nextAlike

theorem rules_ignoreSecrets : IgnoresSecrets (applyRules rules) := by
  apply applyRules_ignoresSecrets
  intro rule member
  simp only [rules, List.mem_cons, List.not_mem_nil, or_false] at member
  rcases member with
    rfl | rfl | rfl | rfl | rfl | rfl | rfl | rfl | rfl | rfl
  · exact fileSizeRule_ignoresSecrets
  · exact defaultLifetimeRule_ignoresSecrets
  · exact maxLifetimeRule_ignoresSecrets
  · exact lifetimeBoundsRule_ignoresSecrets
  · exact whitelistRule_ignoresSecrets
  · exact pathRule_ignoresSecrets
  · exact serverRule_ignoresSecrets
  · exact downloadRule_ignoresSecrets
  · exact authenticationRule_ignoresSecrets
  · exact debugRule_ignoresSecrets

end Validation

/-- Configurations that differ in secrets alone. -/
structure Configuration.LooksAlike (configuration other : Configuration) :
    Prop where
  settings : configuration.settings.LooksAlike other.settings
  derived : configuration.derived = other.derived
  autoClean : configuration.autoClean = other.autoClean

/-- Two ends of a step look alike: the same log records, the same result, and
configurations that look alike. -/
structure Validation.Outcome.LooksAlike {ε α : Type}
    (outcome other : Outcome ε α) : Prop where
  configuration : outcome.configuration.LooksAlike other.configuration
  records : outcome.records = other.records
  result : outcome.result = other.result

namespace Configuration.LooksAlike

variable {configuration other : Configuration}

theorem refl (configuration : Configuration) :
    configuration.LooksAlike configuration :=
  ⟨.refl configuration.settings, rfl, rfl⟩

theorem ofSettings {settings before : Settings}
    (alike : settings.LooksAlike before) :
    (Configuration.ofSettings settings).LooksAlike (.ofSettings before) :=
  ⟨alike, rfl, rfl⟩

theorem validate (alike : configuration.LooksAlike other) :
    (Validation.validate configuration).LooksAlike
      (Validation.validate other) := by
  have start : Draft.LooksAlike { settings := configuration.settings }
      { settings := other.settings } := ⟨alike.settings, rfl, rfl⟩
  have ends := rules_ignoreSecrets start
  unfold Validation.validate
  generalize applyRules rules { settings := configuration.settings } = first
    at ends ⊢
  generalize applyRules rules { settings := other.settings } = second
    at ends ⊢
  obtain ⟨failure, settings, derived, records⟩ := ends
  cases failure with
  | some cause =>
      exact ⟨⟨settings, alike.derived, alike.autoClean⟩, records, rfl⟩
  | none =>
      refine ⟨⟨settings, derived, alike.autoClean⟩, ?_, rfl⟩
      dsimp only
      rw [records, derived]

end Configuration.LooksAlike

end ServerConfig
