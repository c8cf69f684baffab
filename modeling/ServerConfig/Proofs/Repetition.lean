import ServerConfig.Proofs.Layering

/-!
# Validating and overriding again

A validation that succeeds settles settings that it has read before, so the next
one starts from other settings, and overriding them once more puts unsettled
values back.  Neither makes a difference: the settings with which a validation
begins and those that it leaves are `Alike`, and an environment decides the same
settings each time.  Main statements: validating a validated configuration and
overriding an overridden one have the outcome that they had before.
-/

namespace ServerConfig

open Validation

theorem Settings.Alike.refl (settings : Settings) : settings.Alike settings :=
  ⟨fun _ _ => rfl, rfl, rfl, rfl, rfl, rfl, rfl⟩

/-! ## Validating again -/

namespace Validation

section Accepted

variable {settings : Settings} {found : Findings}

/-- Validation makes no difference between accepted settings and what it
settles them to. -/
theorem Accepts.alike_settle (accepts : Accepts settings.reading found) :
    (settle settings found).Alike settings where
  kept field other := get_settle_of_notMem other
  size := by rw [accepts.reading_settle]
  default := by rw [accepts.reading_settle]
  greatest := by rw [accepts.reading_settle]
  path := by rw [settle_path, Text.dropTrailingSlashes_idem]
  download := by rw [accepts.reading_settle]
  debug := by
    have level : (settle settings found).logsDebugging =
        settings.logsDebugging := by
      rw [Settings.logsDebugging, settle_logLevel, Settings.logsDebugging]
    rw [settle_debug, level, Bool.or_assoc, Bool.or_self]

/-- A validation leaves settings that are alike to accepted ones as it leaves
those. -/
theorem Accepts.validate_of_alike {other : Settings}
    (accepts : Accepts settings.reading found) (alike : other.Alike settings)
    (derived : Derived) (autoClean : Bool) :
    validate ⟨other, derived, autoClean⟩ =
      { configuration := ⟨settle settings found, found.derived, autoClean⟩
        records :=
          whitelistRecords found.whitelist ++ [validatedRecord found.derived]
        result := .ok () } := by
  rw [← alike.reading] at accepts
  rw [← alike.settle found]
  exact @Accepts.validate_eq ⟨other, derived, autoClean⟩ found accepts

end Accepted

/-- Validating a validated configuration again succeeds, and leaves it as it
is. -/
theorem validate_validated {configuration : Configuration}
    (valid : (validate configuration).result = .ok ()) :
    validate (validate configuration).configuration =
      validate configuration := by
  obtain ⟨found, accepts⟩ := validate_ok_iff.mp valid
  rw [accepts.validate_eq]
  exact accepts.validate_of_alike accepts.alike_settle _ _

/-- Settings of which a validation changes all that it may change. -/
def unsettled : Settings where
  path := "/root//"
  downloadDomain := "https://dl.example.com//"
  maxFileSizeText := "1 MB"
  defaultLifetimeText := "1d"
  maxLifetimeText := "-1"
  logLevel := "debug"
  googleClientId := "id"
  googleSecret := "secret"
  ovhKey := "key"
  ovhSecret := "secret"

theorem unsettled_validated :
    (validate (.ofSettings unsettled)).result = .ok () ∧
      validate (validate (.ofSettings unsettled)).configuration =
        validate (.ofSettings unsettled) := by
  have valid : (validate (.ofSettings unsettled)).result = .ok () := by
    decide +kernel
  exact ⟨valid, validate_validated valid⟩

end Validation

/-! ## Overriding again -/

namespace Environment

variable {environment : Environment} {settings : Settings} {found : Findings}
  {done : List Field}

/-- Overridden settings have the values of the variables already. -/
theorem overridden_overridden
    (success : (environment.overrideFields Field.all settings).2 = .ok done) :
    environment.overridden (environment.overridden settings) =
      environment.overridden settings := by
  apply Settings.ext_get
  intro field
  by_cases decides : environment.Decides Field.all field
  · exact (get_overridden_of_decides _ success decides).symm
  · exact get_overridden_of_not decides

/-- A validation between changes no setting that overriding remembers: the text
beside the number has been emptied before, and the level of logging is the
one that the validation has seen. -/
theorem forgotten_of_overridden
    (success : (environment.overrideFields Field.all settings).2 = .ok done)
    (accepts : Accepts (environment.overridden settings).reading found)
    {field : Field}
    (remembers : environment.Remembers (environment.overridden settings)
      field) :
    (settle (environment.overridden settings) found).get field =
      (environment.overridden settings).get field := by
  obtain ⟨_, ⟨text, form, emptied⟩ | ⟨rfl, quiet⟩⟩ := remembers
  · exact accepts.get_settle_of_no_text form
      (toJson_overridden_text success form emptied)
  · rw [overridden_overridden success] at quiet
    have debug := settle_debug (environment.overridden settings) found
    rw [quiet, Bool.or_false] at debug
    exact debug

/-- Overriding settled settings once more makes no difference. -/
theorem alike_overridden_settle
    (success : (environment.overrideFields Field.all settings).2 = .ok done)
    (accepts : Accepts (environment.overridden settings).reading found) :
    (environment.overridden
        (settle (environment.overridden settings) found)).Alike
      (environment.overridden settings) := by
  have successAgain : (environment.overrideFields Field.all
      (environment.overridden settings)).2 = .ok done := by
    rw [overrideFields_result _ _ _ settings, success]
  have alike := alike_overridden accepts successAgain
    fun _ => forgotten_of_overridden success accepts
  rwa [overridden_overridden success] at alike

end Environment

namespace Configuration

open Environment (overrideFields_result alike_overridden_settle)

variable {configuration : Configuration} {environment : Environment}

/-- Overriding leaves settings that are alike to accepted ones as a validation
leaves those. -/
theorem override_of_alike {settings : Settings} {found : Findings}
    {done : List Field}
    (read : (environment.overrideFields Field.all configuration.settings).2 =
      .ok done)
    (accepts : Accepts settings.reading found)
    (alike : (environment.overridden configuration.settings).Alike settings) :
    configuration.override environment =
      { configuration :=
          ⟨settle settings found, found.derived, configuration.autoClean⟩
        records := environment.overrideRecords done ++
          (whitelistRecords found.whitelist ++
            [validatedRecord found.derived])
        result := .ok () } := by
  have validated := accepts.validate_of_alike alike configuration.derived
    configuration.autoClean
  have applied : (configuration.applyEnvironment environment).configuration =
      ⟨environment.overridden configuration.settings, configuration.derived,
        configuration.autoClean⟩ := rfl
  simp only [override, applied, validated]
  simp only [applyEnvironment, read]
  rfl

/-- An override that succeeds has read all variables, and what it validates is
accepted. -/
theorem accepts_of_override
    (success : (configuration.override environment).result = .ok ()) :
    ∃ done found,
      (environment.overrideFields Field.all configuration.settings).2 =
          .ok done ∧
        Accepts (environment.overridden configuration.settings).reading
          found := by
  cases read : (environment.overrideFields Field.all
      configuration.settings).2 with
  | error cause =>
      rw [override_of_error read] at success
      cases success
  | ok done =>
      rw [(override_of_ok configuration read).1] at success
      cases valid : (validate
          (configuration.withOverrides environment)).result with
      | error failure =>
          rw [valid] at success
          cases success
      | ok _ =>
          obtain ⟨found, accepts⟩ := validate_ok_iff.mp valid
          exact ⟨done, found, rfl, accepts⟩

/-- Overriding an overridden configuration from the same environment again
succeeds, and leaves it as it is. -/
theorem override_overridden
    (success : (configuration.override environment).result = .ok ()) :
    (configuration.override environment).configuration.override environment =
      configuration.override environment := by
  obtain ⟨done, found, read, accepts⟩ := accepts_of_override success
  have readAgain : (environment.overrideFields Field.all
      (settle (environment.overridden configuration.settings) found)).2 =
        .ok done := by
    rw [overrideFields_result _ _ _ configuration.settings, read]
  rw [override_of_alike read accepts (.refl _)]
  exact override_of_alike readAgain accepts
    (alike_overridden_settle read accepts)

/-- Variables with values that a validation changes, and numbers beside which a
text is emptied. -/
def unsettledEnvironment : Environment :=
  [("PLIKD_PATH", "/root//"), ("PLIKD_DEBUG", "false"),
   ("PLIKD_LOG_LEVEL", "debug"), ("PLIKD_DEFAULT_TTL", "60"),
   ("PLIKD_MAX_TTL_STR", "1h"), ("PLIKD_GOOGLE_AUTHENTICATION", "false")]

theorem unsettled_overridden :
    ((ofSettings unsettled).override unsettledEnvironment).result = .ok () ∧
      ((ofSettings unsettled).override
          unsettledEnvironment).configuration.override unsettledEnvironment =
        (ofSettings unsettled).override unsettledEnvironment := by
  have success : ((ofSettings unsettled).override
      unsettledEnvironment).result = .ok () := by
    decide +kernel
  exact ⟨success, override_overridden success⟩

end Configuration

end ServerConfig
