import ServerConfig.Proofs.PartialOverrides
import ServerConfig.Proofs.UnexpectedErrors

/-!
# Settings of logging

Two settings decide which records are logged: the level of logging and
debugging.  Nothing else that is assembled from settings, validated or reported
depends on them.  `AgreeButLogging` relates what differs in these settings
alone; assembling from sources and environments that agree in the same way ends
alike.
-/

namespace ServerConfig

open Validation

/-- Whether a setting decides which records are logged. -/
def Field.isLogging : Field → Bool
  | .debug => true
  | .logLevel => true
  | _ => false

namespace Settings

/-- Settings that differ in those of logging alone. -/
def AgreeButLogging (settings other : Settings) : Prop :=
  ∀ field : Field, field.isLogging = false →
    settings.get field = other.get field

def withLogging (settings : Settings) (debug : Bool) (logLevel : String) :
    Settings :=
  { settings with debug, logLevel }

namespace AgreeButLogging

variable {settings other : Settings}

theorem refl (settings : Settings) : settings.AgreeButLogging settings :=
  fun _ _ => rfl

/-- What does not read settings of logging has the same value for settings
that agree but for them: it does not notice that they are replaced. -/
theorem eq_withLogging (agree : settings.AgreeButLogging other) :
    other = settings.withLogging other.debug other.logLevel := by
  apply ext_get
  intro field
  cases field
  case debug => rfl
  case logLevel => rfl
  all_goals exact (agree _ rfl).symm

theorem reading (agree : settings.AgreeButLogging other) :
    settings.reading = other.reading := by
  rw [agree.eq_withLogging]
  rfl

theorem settle (agree : settings.AgreeButLogging other) (found : Findings) :
    (Validation.settle settings found).AgreeButLogging
      (Validation.settle other found) := by
  rw [agree.eq_withLogging]
  intro field visible
  cases field <;> first | rfl | cases visible

end AgreeButLogging

end Settings

/-- Both steps succeed with values that are alike, or both fail, expectedly or
not. -/
inductive EndAlike {α : Type} (alike : α → α → Prop) :
    Except AssemblyError α → Except AssemblyError α → Prop where
  | ok {first second : α} :
      alike first second → EndAlike alike (.ok first) (.ok second)
  | error {cause other : AssemblyError} :
      (∀ treatment, cause.isExpected treatment = other.isExpected treatment) →
      EndAlike alike (.error cause) (.error other)

namespace EndAlike

variable {α β : Type} {alike : α → α → Prop} {later : β → β → Prop}
  {first second : Except AssemblyError α}

theorem refl (reflexive : ∀ value, alike value value)
    (result : Except AssemblyError α) : EndAlike alike result result := by
  cases result with
  | ok value => exact .ok (reflexive value)
  | error cause => exact .error fun _ => rfl

theorem bind {next nextToo : α → Except AssemblyError β}
    (ends : EndAlike alike first second)
    (goOn : ∀ value other, alike value other →
      EndAlike later (next value) (nextToo other)) :
    EndAlike later (first.bind next) (second.bind nextToo) := by
  cases ends with
  | ok values => exact goOn _ _ values
  | error same => exact .error same

end EndAlike

namespace Configuration

/-- Configurations that differ in the settings of logging alone. -/
structure AgreeButLogging (configuration other : Configuration) : Prop where
  settings : configuration.settings.AgreeButLogging other.settings
  derived : configuration.derived = other.derived
  autoClean : configuration.autoClean = other.autoClean

/-- The configuration after a validation, if that succeeds. -/
def validated (configuration : Configuration) :
    Except AssemblyError Configuration :=
  ((validate configuration).result.mapError .ofFailure).map fun _ =>
    (validate configuration).configuration

theorem validated_of_accepts {configuration : Configuration}
    {found : Findings}
    (accepts : Accepts configuration.settings.reading found) :
    configuration.validated =
      .ok { configuration with
        settings := settle configuration.settings found
        derived := found.derived } := by
  rw [validated, accepts.validate_eq]
  rfl

/-- A validation fails unexpectedly beyond the limits. -/
theorem validated_of_not_accepts {configuration : Configuration}
    (refused : ¬ ∃ found, Accepts configuration.settings.reading found) :
    ∃ cause, configuration.validated = .error cause ∧
      ∀ treatment, cause.isExpected treatment = false ↔
        BeyondLimits treatment configuration.settings.reading := by
  have unexpected (treatment : ByteSize.Treatment) :=
    @unexpected_validate_iff treatment configuration
  rw [validated]
  cases outcome : (validate configuration).result with
  | ok done => exact (refused (validate_ok_iff.mp outcome)).elim
  | error failure =>
      rw [outcome] at unexpected
      exact ⟨_, rfl, fun treatment =>
        unexpected_error_iff.symm.trans (unexpected treatment)⟩

/-- The configuration after overriding settings and validating, if that
succeeds. -/
def overriddenBy (configuration : Configuration) (environment : Environment) :
    Except AssemblyError Configuration :=
  (configuration.override environment).result.map fun _ =>
    (configuration.override environment).configuration

theorem overriddenBy_of_decodes (configuration : Configuration)
    {environment : Environment} (decodes : environment.Decodes) :
    configuration.overriddenBy environment =
      (configuration.withOverrides environment).validated := by
  have success := Environment.overrideFields_of_decodes
    (Environment.decodesAmong_all_iff.mpr decodes) configuration.settings
  obtain ⟨result, overridden⟩ := override_of_ok configuration success
  rw [overriddenBy, result, overridden, validated]

theorem overriddenBy_of_not_decodes (configuration : Configuration)
    {environment : Environment} (fails : ¬ environment.Decodes) :
    ∃ cause, configuration.overriddenBy environment =
      .error (.coercion cause) := by
  rw [← Environment.decodesAmong_all_iff,
    Environment.not_decodesAmong_iff] at fails
  obtain ⟨earlier, field, text, failure⟩ := fails
  have refused := failure.overrideFields configuration.settings
  refine ⟨⟨field, text⟩, ?_⟩
  rw [overriddenBy, override_of_error (congrArg Prod.snd refused)]
  rfl

end Configuration

namespace Environment

/-- Environments of which the variables differ only for settings of logging,
and are values of them in both or in neither. -/
structure AgreeButLogging (environment other : Environment) : Prop where
  texts : ∀ field : Field, field.isLogging = false →
    environment.text? field = other.text? field
  debugging : environment.DecodesAmong [.debug] ↔ other.DecodesAmong [.debug]

namespace AgreeButLogging

variable {environment other : Environment} {settings before : Settings}

theorem symm (agree : environment.AgreeButLogging other) :
    other.AgreeButLogging environment where
  texts field plain := (agree.texts field plain).symm
  debugging := agree.debugging.symm

theorem decodes (agree : environment.AgreeButLogging other)
    (decodes : environment.Decodes) : other.Decodes := by
  intro field spelled given
  by_cases logging : field.isLogging = true
  · cases field <;> cases logging
    case debug.refl =>
      exact agree.debugging.mp (fun field _ => decodes field) .debug
        List.mem_cons_self spelled given
    case logLevel.refl => exact ⟨spelled, rfl⟩
  · rw [← agree.texts field (by simpa using logging)] at given
    exact decodes field spelled given

/-- The settings after overriding agree, as what overriding does to a setting
is a matter of its own variable and of that of the number beside it. -/
theorem overridden (agree : environment.AgreeButLogging other)
    (decodes : environment.Decodes) (alike : settings.AgreeButLogging before) :
    (environment.overridden settings).AgreeButLogging
      (other.overridden before) := by
  have effect := environment.overrideEffect decodes settings
  have effectToo := other.overrideEffect (agree.decodes decodes) before
  intro field plain
  have texts := agree.texts field plain
  -- The effect of overriding does not speak of the order of steps, so one
  -- setting is compared at a time.
  cases given : environment.text? field with
  | some spelled =>
      have decoded := effect.given field spelled given
      have decodedToo := effectToo.given field spelled (texts ▸ given)
      exact Except.ok.inj (decoded.symm.trans decodedToo)
  | none =>
      have visible {number : Field} (form : textFormOf number = some field) :
          number.isLogging = false := by
        cases number <;> first | rfl | cases form
      by_cases released : ∃ number, textFormOf number = some field ∧
          (environment.text? number).isSome
      · obtain ⟨number, form, present⟩ := released
        have emptied := effect.emptied number field form present given
        have emptiedToo := effectToo.emptied number field form
          (agree.texts number (visible form) ▸ present) (texts ▸ given)
        have same := emptied.trans emptiedToo.symm
        cases number <;> cases form <;> exact Json.string.inj same
      · have unset (number : Field) (form : textFormOf number = some field) :
            environment.text? number = none := by
          simpa using fun present => released ⟨number, form, present⟩
        rw [effect.kept field given unset, effectToo.kept field (texts ▸ given)]
        · exact alike field plain
        · intro number form
          rw [← agree.texts number (visible form)]
          exact unset number form

end AgreeButLogging

end Environment

namespace Configuration.AgreeButLogging

variable {configuration other : Configuration}
  {environment environmentToo : Environment}

theorem validated (agree : configuration.AgreeButLogging other) :
    EndAlike AgreeButLogging configuration.validated other.validated := by
  have reading := agree.settings.reading
  -- Whether and how a validation fails is a matter of the reading alone.
  by_cases accepted : ∃ found, Accepts configuration.settings.reading found
  · obtain ⟨found, accepts⟩ := accepted
    rw [validated_of_accepts accepts, validated_of_accepts (reading ▸ accepts)]
    exact .ok ⟨agree.settings.settle found, rfl, agree.autoClean⟩
  · obtain ⟨cause, failed, beyond⟩ := validated_of_not_accepts accepted
    obtain ⟨causeToo, failedToo, beyondToo⟩ :=
      validated_of_not_accepts (reading ▸ accepted)
    rw [failed, failedToo]
    refine .error fun treatment => ?_
    have same := beyondToo treatment
    rw [← reading, ← beyond treatment, ← Bool.not_eq_true, ← Bool.not_eq_true,
      not_iff_not, ← Bool.eq_iff_iff] at same
    exact same.symm

theorem overriddenBy (agree : configuration.AgreeButLogging other)
    (agreeToo : environment.AgreeButLogging environmentToo) :
    EndAlike AgreeButLogging (configuration.overriddenBy environment)
      (other.overriddenBy environmentToo) := by
  by_cases decodes : environment.Decodes
  · rw [overriddenBy_of_decodes configuration decodes,
      overriddenBy_of_decodes other (agreeToo.decodes decodes)]
    have overridden : (configuration.withOverrides environment).AgreeButLogging
        (other.withOverrides environmentToo) :=
      ⟨agreeToo.overridden decodes agree.settings, agree.derived,
        agree.autoClean⟩
    exact overridden.validated
  · obtain ⟨cause, failed⟩ := overriddenBy_of_not_decodes configuration decodes
    obtain ⟨causeToo, failedToo⟩ :=
      overriddenBy_of_not_decodes other (mt agreeToo.symm.decodes decodes)
    rw [failed, failedToo]
    exact .error fun _ => rfl

theorem eq_withLogging (agree : configuration.AgreeButLogging other) :
    other =
      { configuration with
        settings := configuration.settings.withLogging
          other.settings.debug other.settings.logLevel } := by
  rw [agree.derived, agree.autoClean, ← agree.settings.eq_withLogging]

/-- Neither report shows settings of logging. -/
theorem reports (agree : configuration.AgreeButLogging other) :
    configuration.dump = other.dump ∧
      configuration.publicText = other.publicText := by
  rw [agree.eq_withLogging]
  exact ⟨rfl, rfl⟩

end Configuration.AgreeButLogging

/-! ## Loading -/

/-- The settings that a source holds, before they are validated. -/
def Source.settings (read : FilePath → Except Unavailable ByteArray)
    (source : Source) : Except AssemblyError Settings :=
  (source.entries read).bind fun entries =>
    (Decoding.settings entries).mapError fun faults =>
      .undecodable source.name (.values faults)

namespace Configuration

private theorem load_eq (read : FilePath → Except Unavailable ByteArray)
    (source : Source) :
    (load read source).2 =
      (source.settings read).bind fun settings =>
        (ofSettings settings).validated := by
  rw [load, Source.settings]
  cases source.entries read with
  | error cause => rfl
  | ok entries =>
      simp only [ofEntries, Except.bind]
      cases Decoding.settings entries with
      | error faults => rfl
      | ok settings =>
          simp only [Except.mapError, validated]
          cases (validate (ofSettings settings)).result <;> rfl

/-- Sources that hold settings which agree but for those of logging are loaded
alike. -/
theorem load_endAlike {read readToo : FilePath → Except Unavailable ByteArray}
    {source sourceToo : Source}
    (settings : EndAlike Settings.AgreeButLogging (source.settings read)
      (sourceToo.settings readToo)) :
    EndAlike AgreeButLogging (load read source).2
      (load readToo sourceToo).2 := by
  rw [load_eq, load_eq]
  refine settings.bind fun first second agree => ?_
  have fresh : (ofSettings first).AgreeButLogging (ofSettings second) :=
    ⟨agree, rfl, rfl⟩
  exact fresh.validated

end Configuration

end ServerConfig
